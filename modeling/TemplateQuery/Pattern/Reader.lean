import TemplateQuery.Number.Binary64
import TemplateQuery.Pattern.Basic
import TemplateQuery.Query.Standard
import TemplateQuery.Text.Basic
import TemplateQuery.Text.Letter

/-!
# Reading patterns

The text of a pattern is read one item at a time, with a stack of the groups that are open. Nothing is
said about what is wrong with a text that is no pattern: such a text matches nothing, whatever the reason.
Flags that are set in the middle of a group hold to the end of the group. Names of groups must differ, and
a pattern may not nest more than 250 deep.
-/
namespace TemplateQuery.Pattern

open Text (isBlank isAlphabetic isAlphanumeric)

structure Flags where
  ignoreCase : Bool
  multiLine : Bool
  dotAll : Bool
  unicode : Bool
  crlf : Bool
  /-- White space and comments between the items are skipped. -/
  verbose : Bool
deriving DecidableEq, Inhabited

def Flags.initial : Flags := ⟨false, false, false, true, false, false⟩

def Flags.caseRule (f : Flags) : Option CaseRule :=
  if f.ignoreCase then some (if f.unicode then .full else .ascii) else none

/-- The flag of a letter set to a value. The letter `U` has no influence on whether a pattern matches. -/
def Flags.set? (f : Flags) (letter : Char) (value : Bool) : Option Flags :=
  match letter with
  | 'i' => some { f with ignoreCase := value }
  | 'm' => some { f with multiLine := value }
  | 's' => some { f with dotAll := value }
  | 'u' => some { f with unicode := value }
  | 'R' => some { f with crlf := value }
  | 'x' => some { f with verbose := value }
  | 'U' => some f
  | _ => none

/-- The text from the next character that counts in a verbose pattern. -/
def skipVerbose : (inComment : Bool) → List Char → List Char
  | _, [] => []
  | true, c :: rest => skipVerbose (c != '\n') rest
  | false, c :: rest =>
    if isBlank c then skipVerbose false rest
    else if c = '#' then skipVerbose true rest
    else c :: rest

def Flags.skip (f : Flags) (s : List Char) : List Char := if f.verbose then skipVerbose false s else s

/-- One character, with whether it was given as a byte of two hexadecimal digits. -/
structure Literal where
  char : Char
  isByte : Bool

/-- What a backslash introduces. -/
inductive Escape where
  | literal (l : Literal)
  | look (assertion : Assertion)
  | set (members : CharSet)

def isMeta (c : Char) : Bool := "\\.+*?()|[]\x7b\x7d^$#&-~".toList.contains c

/-- Punctuation that may stand after a backslash for itself. -/
def isEscapable (c : Char) : Bool :=
  isMeta c || (c.toNat < 0x80 && !c.isAlphanum && c != '<' && c != '>')

def hexScalar? (digits : List Char) : Option Char := Text.scalar? (Text.valueInBase 16 digits)

/-- As many hexadecimal digits as asked for. -/
def readHexDigits (f : Flags) : Nat → List Char → Option (List Char × List Char)
  | 0, s => some ([], s)
  | n + 1, s => do
    match s with
    | [] => none
    | c :: rest =>
      if Text.isHexDigit c then
        let (digits, rest) ← readHexDigits f n (f.skip rest)
        return (c :: digits, rest)
      else none

/-- Hexadecimal digits up to a closing brace. -/
def readBracedHex (f : Flags) : (fuel : Nat) → List Char → Option (List Char × List Char)
  | 0, _ => none
  | fuel + 1, s => do
    match f.skip s with
    | [] => none
    | '\x7d' :: rest => some ([], f.skip rest)
    | c :: rest =>
      if Text.isHexDigit c then
        let (digits, rest) ← readBracedHex f fuel rest
        return (c :: digits, rest)
      else none

/-- The rest of a hexadecimal escape after its letter. -/
def readHex (f : Flags) (count : Nat) (s : List Char) : Option (Literal × List Char) := do
  match f.skip s with
  | '\x7b' :: rest =>
    let (digits, rest) ← readBracedHex f (rest.length + 1) rest
    if digits.isEmpty then none
    else
      let c ← hexScalar? digits
      return (⟨c, false⟩, rest)
  | s =>
    let (digits, rest) ← readHexDigits f count s
    let c ← hexScalar? digits
    return (⟨c, count == 2⟩, rest)

/-- The characters up to a closing brace. -/
def readBracedName (f : Flags) : (fuel : Nat) → List Char → Option (List Char × List Char)
  | 0, _ => none
  | fuel + 1, s => do
    match f.skip s with
    | [] => none
    | '\x7d' :: rest => some ([], rest)
    | c :: rest =>
      let (name, rest) ← readBracedName f fuel rest
      return (c :: name, rest)

/-- A property asked for, and whether its complement is meant. -/
structure PropertyQuery where
  negated : Bool
  set : Option CharSet

/-- The text before and after the first place at which `mark` stands. -/
def splitAtMark (mark : List Char) : List Char → Option (List Char × List Char)
  | [] => none
  | c :: rest =>
    if mark.isPrefixOf (c :: rest) then some ([], (c :: rest).drop mark.length)
    else (splitAtMark mark rest).map fun (before, after) => (c :: before, after)

def queryOf (name : List Char) : PropertyQuery :=
  match splitAtMark ['!', '='] name with
  | some (key, value) => ⟨true, namedValue? key value⟩
  | none =>
    match splitAtMark [':'] name with
    | some (key, value) => ⟨false, namedValue? key value⟩
    | none =>
      match splitAtMark ['='] name with
      | some (key, value) => ⟨false, namedValue? key value⟩
      | none => ⟨false, named? name⟩

/-- The rest of a property escape after its letter. -/
def readProperty (f : Flags) (negated : Bool) (s : List Char) : Option (CharSet × List Char) := do
  let (query, rest) ← match f.skip s with
    | [] => none
    | '\x7b' :: rest => do
      let (name, rest) ← readBracedName f (rest.length + 1) rest
      pure (queryOf name, rest)
    | '\\' :: _ => none
    | c :: rest => some (⟨false, named? [c]⟩, f.skip rest)
  let set ← query.set
  if f.unicode then return (.complementIf (negated != query.negated) (.foldedBy f.caseRule set), rest)
  else none

/-- A set that only bytes below 128 belong to, as a pattern without Unicode needs it. -/
def isAsciiSet (s : CharSet) : Bool :=
  (List.range 0x80).all fun n => !s.contains (Char.ofNat (n + 0x80))

/-- The sets of digits, white space and word characters, and their complements. -/
def classSet? (f : Flags) (letter : Char) : Option CharSet :=
  let set := match letter.toLower with
    | 'd' => if f.unicode then digits else asciiDigits
    | 's' => if f.unicode then spaces else asciiSpaces
    | _ => if f.unicode then words else asciiWords
  let set := CharSet.complementIf letter.isUpper set
  if f.unicode || isAsciiSet set then some set else none

/-- The assertion named in braces after the escape of a word boundary. -/
def specialBoundary? (wide : Bool) (name : List Char) : Option Assertion :=
  match String.ofList name with
  | "start" => some (.wordStart wide)
  | "end" => some (.wordEnd wide)
  | "start-half" => some (.halfStart wide)
  | "end-half" => some (.halfEnd wide)
  | _ => none

def isBoundaryNameChar (c : Char) : Bool := c.isAlpha || c = '-'

/-- The letters and hyphens at the front. -/
def takeBoundaryName (f : Flags) : (fuel : Nat) → List Char → List Char × List Char
  | 0, s => ([], s)
  | fuel + 1, s =>
    match s with
    | c :: rest =>
      if isBoundaryNameChar c then
        let (name, rest) := takeBoundaryName f fuel (f.skip rest)
        (c :: name, rest)
      else ([], s)
    | [] => ([], [])

/-- What follows the escape of a word boundary: a name in braces, unless the braces hold a count. -/
def readBoundary (f : Flags) (s : List Char) : Option (Assertion × List Char) :=
  match s with
  | '\x7b' :: rest =>
    match f.skip rest with
    | [] => none
    | c :: inner =>
      if isBoundaryNameChar c then
        match takeBoundaryName f (inner.length + 1) (c :: inner) with
        | (name, '\x7d' :: rest) => (specialBoundary? f.unicode name).map fun a => (a, rest)
        | _ => none
      else some (.boundary f.unicode, s)
  | _ => some (.boundary f.unicode, s)

/-- The control character that a letter stands for. -/
def controlChar? (c : Char) : Option Char :=
  match c with
  | 'a' => some '\x07'
  | 'f' => some '\x0c'
  | 't' => some '\t'
  | 'n' => some '\n'
  | 'r' => some '\r'
  | 'v' => some '\x0b'
  | _ => none

/-- What stands after a backslash. -/
def readEscape (f : Flags) (s : List Char) : Option (Escape × List Char) := do
  match s with
  | [] => none
  | c :: rest =>
    if c = 'x' then (readHex f 2 rest).map fun (l, rest) => (.literal l, rest)
    else if c = 'u' then (readHex f 4 rest).map fun (l, rest) => (.literal l, rest)
    else if c = 'U' then (readHex f 8 rest).map fun (l, rest) => (.literal l, rest)
    else if c = 'p' ∨ c = 'P' then
      (readProperty f (c == 'P') rest).map fun (set, rest) => (.set set, rest)
    else if "dswDSW".toList.contains c then (classSet? f c).map fun set => (.set set, rest)
    else if isEscapable c then some (.literal ⟨c, false⟩, rest)
    else if c = 'A' then some (.look .textStart, rest)
    else if c = 'z' then some (.look .textEnd, rest)
    else if c = 'b' then (readBoundary f rest).map fun (a, rest) => (.look a, rest)
    else if c = 'B' then some (.look (.noBoundary f.unicode), rest)
    else if c = '<' then some (.look (.wordStart f.unicode), rest)
    else if c = '>' then some (.look (.wordEnd f.unicode), rest)
    else (controlChar? c).map fun c => (.literal ⟨c, false⟩, rest)

/-! ## Bracketed sets -/

inductive SetOperator where
  | intersection
  | difference
  | symmetricDifference

def SetOperator.apply : SetOperator → CharSet → CharSet → CharSet
  | .intersection, a, b => .inter a b
  | .difference, a, b => .difference a b
  | .symmetricDifference, a, b => .exclusive a b

/-- A part of a bracketed set, with the levels of brackets, unions and operators in it. -/
structure SetItem where
  set : CharSet
  levels : Nat

namespace SetItem

def flat (set : CharSet) : SetItem := ⟨set, 0⟩

/-- The union of the parts, which adds a level if there is more than one. -/
def unite : List SetItem → SetItem
  | [] => flat .empty
  | [item] => item
  | items => ⟨.unionAll (items.map set), (items.map levels).foldl max 0 + 1⟩

def operate (op : SetOperator) (left right : SetItem) : SetItem :=
  ⟨op.apply left.set right.set, max left.levels right.levels + 1⟩

def enclose (negated : Bool) (item : SetItem) : SetItem := ⟨.complementIf negated item.set, item.levels + 1⟩

end SetItem

/-- An open bracket with the items of the set around it, or an operator with its left side. -/
inductive SetFrame where
  | bracket (negated : Bool) (outer : List SetItem)
  | operator (op : SetOperator) (left : SetItem)

structure SetState where
  frames : List SetFrame
  items : List SetItem
  rest : List Char

/-- The set of a literal, closed under case. Without Unicode no set reaches beyond ASCII. -/
def literalSet? (f : Flags) (l : Literal) : Option CharSet :=
  if f.unicode || l.char.toNat < 0x80 then some (.foldedBy f.caseRule (.single l.char)) else none

def rangeSet? (f : Flags) (first last : Literal) : Option CharSet :=
  if last.char < first.char then none
  else if f.unicode || last.char.toNat < 0x80 then some (.foldedBy f.caseRule (.range first.char last.char))
  else none

/-- The hyphens, or else the one closing bracket, that stand for themselves at the start of a set. -/
def takeHyphens (f : Flags) : (fuel : Nat) → List Char → List SetItem × List Char
  | 0, s => ([], s)
  | fuel + 1, s =>
    match s with
    | '-' :: rest =>
      let (items, rest) := takeHyphens f fuel (f.skip rest)
      (SetItem.flat (.single '-') :: items, rest)
    | s => ([], s)

/-- Opens a bracket whose first character was just read. -/
def openSet (f : Flags) (state : SetState) (s : List Char) : Option SetState :=
  let s := f.skip s
  let (negated, s) := match s with
    | '^' :: rest => (true, f.skip rest)
    | s => (false, s)
  let (items, s) := takeHyphens f s.length s
  let (items, s) := match items, s with
    | [], ']' :: rest => ([SetItem.flat (.single ']')], f.skip rest)
    | items, s => (items, s)
  if s.isEmpty then none
  else some { frames := .bracket negated state.items :: state.frames, items := items, rest := s }

/-- Applies the operator that waits for its right side. -/
def closeOperator (frames : List SetFrame) (right : SetItem) : SetItem × List SetFrame :=
  match frames with
  | .operator op left :: frames => (.operate op left right, frames)
  | frames => (right, frames)

def pushOperator (op : SetOperator) (state : SetState) (s : List Char) : SetState :=
  let (left, frames) := closeOperator state.frames (.unite state.items)
  { frames := .operator op left :: frames, items := [], rest := s }

/-- Closes a bracket: the finished set if it was the outermost one, else the state around it. -/
def closeSet (f : Flags) (state : SetState) (s : List Char) : Option (SetItem × List Char ⊕ SetState) :=
  let (item, frames) := closeOperator state.frames (.unite state.items)
  match frames with
  | .bracket negated outer :: frames =>
    let item := item.enclose negated
    if !f.unicode && !isAsciiSet item.set then none
    else if frames.isEmpty then some (.inl (item, s))
    else some (.inr { frames := frames, items := outer ++ [item], rest := s })
  | _ => none

/-- The ASCII class between `[:` and `:]`, if one stands after an inner bracket. -/
def asciiClassAt? (f : Flags) (s : List Char) : Option (CharSet × List Char) := do
  match s with
  | ':' :: rest =>
    let (negated, rest) := match rest with
      | '^' :: rest => (true, rest)
      | rest => (false, rest)
    match rest.dropWhile (· != ':') with
    | ':' :: ']' :: after =>
      let set ← asciiClass? (String.ofList (rest.takeWhile (· != ':')))
      return (.complementIf negated (.foldedBy f.caseRule set), after)
    | _ => none
  | _ => none

/-- A single member of a bracketed set. -/
def readMember (f : Flags) (s : List Char) : Option (Escape × List Char) :=
  match s with
  | [] => none
  | '\\' :: rest => readEscape f rest
  | c :: rest => some (.literal ⟨c, false⟩, rest)

/-- The first character after this one that is neither white space nor the mark of a comment. -/
def peekAfterSpace : (marked : Bool) → List Char → Option Char
  | _, [] => none
  | marked, c :: rest =>
    if isBlank c then peekAfterSpace marked rest
    else if c = '#' && !marked then peekAfterSpace true rest
    else some c

def Flags.peekAfter (f : Flags) (s : List Char) : Option Char :=
  if f.verbose then peekAfterSpace false s else s.head?

def memberSet? (f : Flags) : Escape → Option CharSet
  | .literal l => literalSet? f l
  | .set set => some set
  | .look _ => none

/-- A member or a range of a bracketed set. -/
def readSetItem (f : Flags) (s : List Char) : Option (CharSet × List Char) := do
  let (first, rest) ← readMember f s
  match f.skip rest with
  | [] => none
  | '-' :: after =>
    if f.peekAfter after = some ']' ∨ f.peekAfter after = some '-' then
      let set ← memberSet? f first
      return (set, '-' :: after)
    else
      let (last, rest) ← readMember f (f.skip after)
      match first, last with
      | .literal first, .literal last =>
        let set ← rangeSet? f first last
        return (set, rest)
      | _, _ => none
  | rest =>
    let set ← memberSet? f first
    return (set, rest)

/-- The next step inside a bracketed set. -/
def setStep (f : Flags) (state : SetState) : Option (SetItem × List Char ⊕ SetState) := do
  match f.skip state.rest with
  | [] => none
  | '[' :: rest =>
    match asciiClassAt? f rest with
    | some (set, rest) =>
      if !f.unicode && !isAsciiSet set then none
      else return .inr { state with items := state.items ++ [.flat set], rest := rest }
    | none =>
      let state ← openSet f state rest
      return .inr state
  | ']' :: rest => closeSet f state rest
  | '&' :: '&' :: rest => return .inr (pushOperator .intersection state rest)
  | '-' :: '-' :: rest => return .inr (pushOperator .difference state rest)
  | '~' :: '~' :: rest => return .inr (pushOperator .symmetricDifference state rest)
  | s =>
    let (set, rest) ← readSetItem f s
    return .inr { state with items := state.items ++ [.flat set], rest := rest }

def runSet (f : Flags) : (fuel : Nat) → SetState → Option (SetItem × List Char)
  | 0, _ => none
  | fuel + 1, state =>
    match setStep f state with
    | some (.inl done) => some done
    | some (.inr state) => runSet f fuel state
    | none => none

/-- The rest of a bracketed set after its opening bracket. -/
def readSet (f : Flags) (s : List Char) : Option (SetItem × List Char) := do
  let state ← openSet f ⟨[], [], s⟩ s
  runSet f (s.length + 1) state

/-! ## Groups and repetition -/

/-- A part of a concatenation: a pattern, or a place where flags were set. -/
inductive Part where
  | pattern (p : Pattern)
  | flags

/-- The branches finished so far and the parts of the current one, both last first. -/
structure Level where
  branches : List Pattern
  parts : List Part

def Level.start : Level := ⟨[], []⟩

/-- A flag setting counts as a part, but adds nothing to match. -/
def concatOf (parts : List Part) : Pattern :=
  let patterns := parts.reverse.map fun
    | .pattern p => p
    | .flags => Pattern.empty
  match patterns with
  | [] => .empty
  | [p] => p
  | ps => .concat ps

def Level.finish (l : Level) : Pattern :=
  match l.branches with
  | [] => concatOf l.parts
  | branches => .alternate (concatOf l.parts :: branches).reverse

/-- An open group: the level around it and the flags that come back when it closes. -/
structure OpenGroup where
  outer : Level
  flags : Flags

structure State where
  rest : List Char
  flags : Flags
  level : Level
  groups : List OpenGroup
  names : List (List Char)

def State.push (s : State) (p : Pattern) (rest : List Char) : State :=
  { s with level := { s.level with parts := .pattern p :: s.level.parts }, rest := rest }

/-- The flags between a question mark and a colon or a closing parenthesis. -/
structure FlagItems where
  /-- The letters read so far. -/
  seen : List Char
  negated : Bool
  /-- Whether a minus sign was the last thing read. -/
  dangling : Bool
  flags : Flags

def readFlags (items : FlagItems) : List Char → Option (FlagItems × List Char)
  | [] => none
  | c :: rest =>
    if c = ':' ∨ c = ')' then if items.dangling then none else some (items, c :: rest)
    else if c = '-' then
      if items.negated then none else readFlags { items with negated := true, dangling := true } rest
    else if items.seen.contains c then none
    else match items.flags.set? c !items.negated with
      | some flags => readFlags { items with seen := c :: items.seen, dangling := false, flags := flags } rest
      | none => none

def isNameStart (c : Char) : Bool := c = '_' || isAlphabetic c

def isNameRest (c : Char) : Bool := c = '_' || c = '.' || c = '[' || c = ']' || isAlphanumeric c

/-- The name of a group and what follows its closing angle. -/
def readGroupName (s : List Char) : Option (List Char × List Char) :=
  match s.takeWhile (· != '>'), s.dropWhile (· != '>') with
  | c :: name, '>' :: rest => if isNameStart c && name.all isNameRest then some (c :: name, rest) else none
  | _, _ => none

def State.enter (s : State) (flags : Flags) (rest : List Char) : State :=
  { s with rest := rest, flags := flags, level := .start, groups := ⟨s.level, s.flags⟩ :: s.groups }

def State.enterNamed (s : State) (text : List Char) : Option State := do
  let (name, rest) ← readGroupName text
  if s.names.contains name then none
  else return { s.enter s.flags rest with names := name :: s.names }

/-- What follows an opening parenthesis. -/
def State.open (s : State) (rest : List Char) : Option State := do
  match s.flags.skip rest with
  | '?' :: 'P' :: '<' :: text => s.enterNamed text
  | '?' :: '<' :: '=' :: _ => none
  | '?' :: '<' :: '!' :: _ => none
  | '?' :: '<' :: text => s.enterNamed text
  | '?' :: text =>
    let (items, rest) ← readFlags ⟨[], false, false, s.flags⟩ text
    match rest with
    | ':' :: rest => return s.enter items.flags rest
    | _ :: rest =>
      if items.seen.isEmpty && !items.negated then none
      else return { s with
        rest := rest, flags := items.flags, level := { s.level with parts := .flags :: s.level.parts } }
    | [] => none
  | text => return s.enter s.flags text

def State.close (s : State) (rest : List Char) : Option State :=
  match s.groups with
  | [] => none
  | g :: groups =>
    let p := Pattern.group s.level.finish
    some { s with
      rest := rest, flags := g.flags, groups := groups
      level := { g.outer with parts := .pattern p :: g.outer.parts } }

def State.branch (s : State) (rest : List Char) : State :=
  { s with rest := rest, level := ⟨concatOf s.level.parts :: s.level.branches, []⟩ }

/-- Repeats the last part. -/
def State.repeatLast (s : State) (least : Nat) (most : Option Nat) (rest : List Char) : Option State :=
  match s.level.parts with
  | .pattern p :: parts => some { s with
      rest := rest, level := { s.level with parts := .pattern (.repeated p least most) :: parts } }
  | _ => none

/-- A question mark after a repetition asks for short matches first, which changes no answer. -/
def dropLazy : List Char → List Char
  | '?' :: rest => rest
  | s => s

/-- Decimal digits with white space around them. -/
def readCount (f : Flags) (s : List Char) : Option (Nat × List Char) :=
  let s := s.dropWhile isBlank
  let (digits, rest) := digitsAt s.length s
  let n := Text.decimalValue digits
  if digits.isEmpty || twoPow 32 ≤ n then none else some (n, skipBlanks rest.length rest)
where
  digitsAt : Nat → List Char → List Char × List Char
    | 0, s => ([], s)
    | fuel + 1, s =>
      match s with
      | c :: rest =>
        if c.isDigit then
          let (digits, rest) := digitsAt fuel (f.skip rest)
          (c :: digits, rest)
        else ([], s)
      | [] => ([], [])
  skipBlanks : Nat → List Char → List Char
    | 0, s => s
    | fuel + 1, s =>
      match s with
      | c :: rest => if isBlank c then skipBlanks fuel (f.skip rest) else s
      | [] => []

/-- What follows the opening brace of a counted repetition: its bounds and the text after it. -/
def readBounds (f : Flags) (s : List Char) : Option ((Nat × Option Nat) × List Char) := do
  let (least, s) ← readCount f (f.skip s)
  match s with
  | '\x7d' :: rest => return ((least, some least), dropLazy (f.skip rest))
  | ',' :: rest =>
    match f.skip rest with
    | '\x7d' :: rest => return ((least, none), dropLazy (f.skip rest))
    | s =>
      let (most, s) ← readCount f s
      match s with
      | '\x7d' :: rest => if least ≤ most then return ((least, some most), dropLazy (f.skip rest)) else none
      | _ => none
  | _ => none

def anyChar (f : Flags) : Option CharSet :=
  if !f.unicode then none
  else if f.dotAll then some everything
  else if f.crlf then some (.complement (.ofText "A D"))
  else some (.complement (.ofText "A"))

def startAssertion (f : Flags) : Assertion :=
  if !f.multiLine then .textStart else if f.crlf then .crlfStart else .lineStart

def endAssertion (f : Flags) : Assertion :=
  if !f.multiLine then .textEnd else if f.crlf then .crlfEnd else .lineEnd

/-- A literal outside of brackets. A byte beyond ASCII is no text. -/
def literalPattern? (f : Flags) (l : Literal) : Option Pattern :=
  if !f.unicode && l.isByte && 0x80 ≤ l.char.toNat then none
  else if !f.unicode && 0x80 ≤ l.char.toNat then some (.chars (.single l.char) 0)
  else some (.chars (.foldedBy f.caseRule (.single l.char)) 0)

def State.escape (s : State) (rest : List Char) : Option State := do
  let (e, rest) ← readEscape s.flags rest
  match e with
  | .literal l =>
    let p ← literalPattern? s.flags l
    return s.push p rest
  | .look a => return s.push (.look a) rest
  | .set set => return s.push (.chars set 0) rest

/-- Reads one item. -/
def State.step (s : State) (c : Char) (rest : List Char) : Option State := do
  match c with
  | '(' => s.open rest
  | ')' => s.close rest
  | '|' => return s.branch rest
  | '[' =>
    let (item, rest) ← readSet s.flags rest
    return s.push (.chars item.set item.levels) rest
  | '?' => s.repeatLast 0 (some 1) (dropLazy rest)
  | '*' => s.repeatLast 0 none (dropLazy rest)
  | '+' => s.repeatLast 1 none (dropLazy rest)
  | '\x7b' =>
    let ((least, most), rest) ← readBounds s.flags rest
    s.repeatLast least most rest
  | '\\' => s.escape rest
  | '.' =>
    let set ← anyChar s.flags
    return s.push (.chars set 0) rest
  | '^' => return s.push (.look (startAssertion s.flags)) rest
  | '$' => return s.push (.look (endAssertion s.flags)) rest
  | c =>
    let p ← literalPattern? s.flags ⟨c, false⟩
    return s.push p rest

def State.run : (fuel : Nat) → State → Option Pattern
  | 0, _ => none
  | fuel + 1, s =>
    match s.flags.skip s.rest with
    | [] => if s.groups.isEmpty then some s.level.finish else none
    | c :: rest =>
      match s.step c rest with
      | some s => State.run fuel s
      | none => none

/-- The pattern of a text, if the text is one. -/
def ofText? (text : String) : Option Pattern := do
  let s := text.toList
  let p ← State.run (s.length + 1) ⟨s, .initial, .start, [], []⟩
  if depth p ≤ 250 then some p else none

/-- The engine that the command line runs with. It limits how deep a pattern nests, but not how large it is. -/
instance engine : Query.PatternEngine where
  Compiled := Pattern
  compile? := ofText?
  isMatch := occursIn

end TemplateQuery.Pattern
