import TemplateQuery.Pattern.Property

/-!
# Patterns and their matches

A pattern is matched by running a set of positions of the text through it: each part of the pattern
takes the positions at which it may start to those at which it may end. Repetition adds positions until
nothing new appears, so matching always ends, in time polynomial in the length of the text.
-/
namespace TemplateQuery

inductive Pattern.Assertion where
  | textStart
  | textEnd
  | lineStart
  | lineEnd
  /-- Line starts and ends where a line feed, a carriage return or both in this order end a line. -/
  | crlfStart
  | crlfEnd
  /-- Between two characters of which just one is a word character; `wide` goes beyond ASCII. -/
  | boundary (wide : Bool)
  | noBoundary (wide : Bool)
  | wordStart (wide : Bool)
  | wordEnd (wide : Bool)
  | halfStart (wide : Bool)
  | halfEnd (wide : Bool)
deriving DecidableEq, Inhabited

inductive Pattern where
  | empty
  /-- One character of a set that was written with so many levels of brackets. -/
  | chars (set : Pattern.CharSet) (levels : Nat)
  | look (assertion : Pattern.Assertion)
  | concat (parts : List Pattern)
  | alternate (branches : List Pattern)
  | repeated (body : Pattern) (least : Nat) (most : Option Nat)
  | group (body : Pattern)
deriving Inhabited

namespace Pattern

abbrev Subject := Array Char

def wordAt (text : Subject) (wide : Bool) (p : Nat) : Bool :=
  match text[p]? with
  | some c => if wide then isWord c else isAsciiWord c
  | none => false

def wordBefore (text : Subject) (wide : Bool) : Nat → Bool
  | 0 => false
  | p + 1 => wordAt text wide p

def charBefore? (text : Subject) : Nat → Option Char
  | 0 => none
  | p + 1 => text[p]?

/-- Whether the assertion holds at a position of the text. -/
def Assertion.holds (text : Subject) (p : Nat) : Assertion → Bool
  | .textStart => p == 0
  | .textEnd => p == text.size
  | .lineStart => p == 0 || charBefore? text p == some '\n'
  | .lineEnd => p == text.size || text[p]? == some '\n'
  | .crlfStart => p == 0 || charBefore? text p == some '\n'
      || (charBefore? text p == some '\r' && text[p]? != some '\n')
  | .crlfEnd => p == text.size || text[p]? == some '\r'
      || (text[p]? == some '\n' && charBefore? text p != some '\r')
  | .boundary wide => wordBefore text wide p != wordAt text wide p
  | .noBoundary wide => wordBefore text wide p == wordAt text wide p
  | .wordStart wide => !wordBefore text wide p && wordAt text wide p
  | .wordEnd wide => wordBefore text wide p && !wordAt text wide p
  | .halfStart wide => !wordBefore text wide p
  | .halfEnd wide => !wordAt text wide p

/-- The positions of both lists, those of the first one first. -/
def join (a b : List Nat) : List Nat := a ++ b.filter fun p => !a.contains p

/-- Everything reached by any number of steps, at most `fuel` of them, from `frontier`. -/
def closure (step : List Nat → List Nat) : (fuel : Nat) → (frontier seen : List Nat) → List Nat
  | 0, _, seen => seen
  | fuel + 1, frontier, seen =>
    let fresh := (step frontier).filter fun p => !seen.contains p
    if fresh.isEmpty then seen else closure step fuel fresh (join seen fresh)

/-- Exactly `n` steps. A set that a step leaves alone stays as it is. -/
def exactly (step : List Nat → List Nat) : (n : Nat) → List Nat → List Nat
  | 0, ps => ps
  | n + 1, ps =>
    let next := step ps
    if next = ps then ps else exactly step n next

/-- At most `n` steps. -/
def upTo (step : List Nat → List Nat) : (n : Nat) → List Nat → List Nat
  | 0, ps => ps
  | n + 1, ps =>
    let next := (step ps).filter fun p => !ps.contains p
    if next.isEmpty then ps else upTo step n (join ps next)

def repetition (size least : Nat) (most : Option Nat) (step : List Nat → List Nat) (ps : List Nat) : List Nat :=
  let start := exactly step least ps
  match most with
  | some most => upTo step (most - least) start
  | none => closure step (size + 1) start start

mutual

/-- The positions at which a match that starts at one of the given positions may end. -/
def ends (text : Subject) : Pattern → List Nat → List Nat
  | .empty, ps => ps
  | .chars set _, ps => ps.filterMap fun p =>
      match text[p]? with
      | some c => if set.contains c then some (p + 1) else none
      | none => none
  | .look assertion, ps => ps.filter (Assertion.holds text · assertion)
  | .concat parts, ps => endsInTurn text parts ps
  | .alternate branches, ps => endsOfAny text branches ps
  | .repeated body least most, ps => repetition text.size least most (ends text body) ps
  | .group body, ps => ends text body ps
termination_by structural p => p

def endsInTurn (text : Subject) : List Pattern → List Nat → List Nat
  | [], ps => ps
  | part :: rest, ps => endsInTurn text rest (ends text part ps)
termination_by structural p => p

def endsOfAny (text : Subject) : List Pattern → List Nat → List Nat
  | [], _ => []
  | branch :: rest, ps => join (ends text branch ps) (endsOfAny text rest ps)
termination_by structural p => p

end

/-- Whether some part of the text matches. -/
def occursIn (p : Pattern) (subject : String) : Bool :=
  let text := subject.toList.toArray
  !(ends text p (List.range (text.size + 1))).isEmpty

mutual

/-- How deep the parts of a pattern nest. -/
def depth : Pattern → Nat
  | .empty | .look _ => 0
  | .chars _ levels => levels
  | .concat parts => depthOfAll parts + 1
  | .alternate branches => depthOfAll branches + 1
  | .repeated body _ _ => depth body + 1
  | .group body => depth body + 1
termination_by structural p => p

def depthOfAll : List Pattern → Nat
  | [] => 0
  | p :: rest => max (depth p) (depthOfAll rest)
termination_by structural p => p

end

end Pattern

end TemplateQuery
