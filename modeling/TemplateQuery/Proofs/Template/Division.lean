import Mathlib.Data.List.DropRight
import TemplateQuery.Proofs.Template.Scanning

/-!
# The division of a source

Seen from outside, a source is a row of texts with markup between them. Each markup starts at the first opening that is left
and ends with the first closing behind it, and a hyphen at either end of what it holds trims the text on that side. A source
is refused just if an opening that is come to in this way is not closed, or is that of a tag without a name.
-/
namespace TemplateQuery.Template

open Text (isBlank skipBlank skipBlank_eq_dropWhile trimEnd trim)

/-! ## First occurrences -/

/-- The first place in a text where one of some words stands. -/
structure FirstOf {ι : Type} (word : ι → List Char) (s before : List Char) (i : ι) (after : List Char) : Prop where
  text_eq : s = before ++ (word i ++ after)
  first : ∀ u j v, s = u ++ (word j ++ v) → before.length ≤ u.length

/-- Both characters of a closing. -/
def Opening.closingText (opening : Opening) : List Char := [opening.closing, '\x7d']

/-- The first opening in a text. -/
abbrev FirstOpening (s before : List Char) (opening : Opening) (behind : List Char) : Prop :=
  FirstOf (fun o : Opening => o.text.toList) s before opening behind

/-- The first closing behind an opening. -/
abbrev FirstClosing (opening : Opening) (s inside after : List Char) : Prop :=
  FirstOf (fun _ : Unit => opening.closingText) s inside () after

section First

variable {s before behind inside after : List Char} {opening : Opening}

theorem FirstOf.unique {ι : Type} {word : ι → List Char} {i j : ι} {before' after' : List Char}
    (h : FirstOf word s before i after) (h' : FirstOf word s before' j after') :
    before = before' ∧ word i ++ after = word j ++ after' := by
  have hLength : before.length = before'.length :=
    le_antisymm (h.first before' j after' h'.text_eq) (h'.first before i after h.text_eq)
  exact List.append_inj (h.text_eq.symm.trans h'.text_eq) hLength

/-- Wherever an opening stands, the text is split there or before. -/
theorem exists_splitAtOpening (u : List Char) (o : Opening) (v : List Char) :
    ∃ before opening behind, splitAtOpening (u ++ (o.text.toList ++ v)) = some (before, opening, behind) ∧
      before.length ≤ u.length := by
  induction u with
  | nil => exact ⟨[], o, v, splitAtOpening_text o v, Nat.le_refl _⟩
  | cons c u ih =>
    by_cases hOpens : ∀ d ∈ (u ++ (o.text.toList ++ v)).head?, ¬Opens c d
    · obtain ⟨before, opening, behind, hSplit, hLength⟩ := ih
      refine ⟨c :: before, opening, behind, ?_, Nat.succ_le_succ hLength⟩
      rw [List.cons_append, splitAtOpening_cons hOpens, hSplit]
      rfl
    · obtain ⟨opening, behind, hText⟩ := exists_opening_of_opens hOpens
      refine ⟨[], opening, behind, ?_, Nat.zero_le _⟩
      rw [List.cons_append, hText, splitAtOpening_text]

theorem exists_splitAtClosing (first : Char) (u v : List Char) :
    ∃ inside after, splitAtClosing first (u ++ ([first, '\x7d'] ++ v)) = some (inside, after) ∧
      inside.length ≤ u.length := by
  induction u with
  | nil => exact ⟨[], v, if_pos ⟨rfl, rfl⟩, Nat.le_refl _⟩
  | cons c u ih =>
    obtain ⟨inside, after, hSplit, hLength⟩ := ih
    obtain ⟨d, s, hNext⟩ : ∃ d s, u ++ ([first, '\x7d'] ++ v) = d :: s := List.exists_cons_of_ne_nil (by simp)
    rw [hNext] at hSplit
    rw [List.cons_append, hNext, splitAtClosing]
    by_cases hCloses : c = first ∧ d = '\x7d'
    · exact ⟨[], s, if_pos hCloses, Nat.zero_le _⟩
    · rw [if_neg hCloses, hSplit]
      exact ⟨c :: inside, after, rfl, Nat.succ_le_succ hLength⟩

theorem firstOpening_of_splitAtOpening (h : splitAtOpening s = some (before, opening, behind)) :
    FirstOpening s before opening behind where
  text_eq := (splitAtOpening_eq_some_iff.1 h).1
  first u o v hText := by
    obtain ⟨_, _, _, hSplit, hLength⟩ := exists_splitAtOpening u o v
    rw [← hText, h] at hSplit
    cases hSplit
    exact hLength

theorem firstClosing_of_splitAtClosing (h : splitAtClosing opening.closing s = some (inside, after)) :
    FirstClosing opening s inside after where
  text_eq := eq_of_splitAtClosing h
  first u _ v hText := by
    obtain ⟨_, _, hSplit, hLength⟩ := exists_splitAtClosing opening.closing u v
    rw [Opening.closingText] at hText
    rw [← hText, h] at hSplit
    cases hSplit
    exact hLength

/-- A text is split at the first opening in it. -/
theorem splitAtOpening_eq_some_iff_first :
    splitAtOpening s = some (before, opening, behind) ↔ FirstOpening s before opening behind := by
  refine ⟨firstOpening_of_splitAtOpening, fun h => ?_⟩
  obtain ⟨_, opening', behind', hSplit, -⟩ := exists_splitAtOpening before opening behind
  rw [← h.text_eq] at hSplit
  obtain ⟨rfl, hRest⟩ := h.unique (firstOpening_of_splitAtOpening hSplit)
  rw [hSplit]
  cases opening <;> cases opening' <;> cases hRest <;> rfl

theorem splitAtOpening_eq_none_iff_nowhere :
    splitAtOpening s = none ↔ ∀ o : Opening, ¬o.text.toList <:+: s := by
  constructor
  · rintro h o ⟨u, v, rfl⟩
    obtain ⟨_, _, _, hSplit, -⟩ := exists_splitAtOpening u o v
    rw [← List.append_assoc, h] at hSplit
    cases hSplit
  · intro h
    cases hSplit : splitAtOpening s with
    | none => rfl
    | some split =>
      obtain ⟨before, opening, behind⟩ := split
      obtain ⟨rfl, -⟩ := splitAtOpening_eq_some_iff.1 hSplit
      exact absurd ⟨before, behind, List.append_assoc _ _ _⟩ (h opening)

/-- Behind an opening, a text is split at the first closing in it. -/
theorem splitAtClosing_eq_some_iff_first :
    splitAtClosing opening.closing s = some (inside, after) ↔ FirstClosing opening s inside after := by
  refine ⟨firstClosing_of_splitAtClosing, fun h => ?_⟩
  obtain ⟨_, after', hSplit, -⟩ := exists_splitAtClosing opening.closing inside after
  have hText : s = inside ++ ([opening.closing, '\x7d'] ++ after) := h.text_eq
  rw [← hText] at hSplit
  obtain ⟨rfl, hRest⟩ := h.unique (firstClosing_of_splitAtClosing hSplit)
  rw [hSplit, List.append_cancel_left hRest]

theorem splitAtClosing_eq_none_iff_nowhere :
    splitAtClosing opening.closing s = none ↔ ¬opening.closingText <:+: s := by
  constructor
  · rintro h ⟨u, v, rfl⟩
    obtain ⟨_, _, hSplit, -⟩ := exists_splitAtClosing opening.closing u v
    rw [← List.append_assoc] at hSplit
    cases h.symm.trans hSplit
  · intro h
    cases hSplit : splitAtClosing opening.closing s with
    | none => rfl
    | some split =>
      obtain rfl := eq_of_splitAtClosing hSplit
      exact absurd ⟨split.1, split.2, by simp [Opening.closingText]⟩ h

end First

/-! ## White space at the ends -/

def trimmed (s : List Char) : List Char := (s.dropWhile isBlank).rdropWhile isBlank

section Trimming

theorem trimEnd_eq_rdropWhile (s : List Char) : trimEnd s = s.rdropWhile isBlank := by
  rw [trimEnd, skipBlank_eq_dropWhile, List.rdropWhile]

theorem trim_eq_trimmed (s : List Char) : trim s = trimmed s := by
  rw [trim, trimEnd_eq_rdropWhile, skipBlank_eq_dropWhile, trimmed]

/-- Trimming takes the white space at which a tag is split, too. -/
theorem trim_drop_one (s : List Char) :
    trim ((s.dropWhile (!isBlank ·)).drop 1) = trimmed (s.dropWhile (!isBlank ·)) := by
  rw [trim_eq_trimmed]
  cases hRest : s.dropWhile (!isBlank ·) with
  | nil => rfl
  | cons c rest =>
    have hBlank : isBlank c = true := by
      simpa [hRest] using List.head_dropWhile_not (!isBlank ·) (l := s) (by simp [hRest])
    rw [List.drop_one, List.tail_cons, trimmed, trimmed, List.dropWhile_cons_of_pos hBlank]

end Trimming

/-! ## Pieces as they are written -/

/-- A hyphen that trims the text next to it, if there is one. -/
def hyphen (trims : Bool) : List Char := if trims then ['-'] else []

namespace Piece

/-- A hyphen follows the opening. -/
def opensWithHyphen (piece : Piece) : Bool := piece.inside.head? = some '-'

/-- What stands behind the opening and its hyphen. -/
def body (piece : Piece) : List Char := if piece.opensWithHyphen then piece.inside.tail else piece.inside

/-- A hyphen stands in front of the closing. It is not the one behind the opening. -/
def closesWithHyphen (piece : Piece) : Bool := piece.body.getLast? = some '-'

/-- What stands between the hyphens. -/
def core (piece : Piece) : List Char := if piece.closesWithHyphen then piece.body.dropLast else piece.body

/-- The source of an output statement or of a tag. -/
def source (piece : Piece) : List Char := trimmed piece.core

/-- The name of a tag. -/
def name (piece : Piece) : List Char := piece.source.takeWhile (!isBlank ·)

/-- The header of a tag: all that is behind its name. -/
def header (piece : Piece) : List Char := trimmed (piece.source.dropWhile (!isBlank ·))

/-- If the piece is a tag, it has a name. -/
def IsNamed (piece : Piece) : Prop := piece.opening = .tag → piece.name ≠ []

/-- The markup that the piece stands for. -/
def markup (piece : Piece) (line : Nat) : Markup :=
  match piece.opening with
  | .output => .output (String.ofList piece.source) line
  | .tag => .tag (String.ofList piece.name) (String.ofList piece.header) line

/-- The parts that a piece is written with. -/
def parts (piece : Piece) : List (List Char) :=
  [piece.before, piece.opening.text.toList, hyphen piece.opensWithHyphen, piece.core, hyphen piece.closesWithHyphen,
    piece.opening.closingText]

section Parts

variable {piece : Piece} {line : Nat} {m : Markup}

theorem hyphen_append_body (piece : Piece) : hyphen piece.opensWithHyphen ++ piece.body = piece.inside := by
  by_cases h : piece.inside.head? = some '-'
  · obtain ⟨rest, hRest⟩ := List.head?_eq_some_iff.1 h
    simp [hyphen, body, opensWithHyphen, hRest]
  · simp [hyphen, body, opensWithHyphen, h]

theorem core_append_hyphen (piece : Piece) : piece.core ++ hyphen piece.closesWithHyphen = piece.body := by
  by_cases h : piece.body.getLast? = some '-'
  · obtain ⟨rest, hRest⟩ := List.getLast?_eq_some_iff.1 h
    simp [hyphen, core, closesWithHyphen, hRest]
  · simp [hyphen, core, closesWithHyphen, h]

theorem flatten_parts (piece : Piece) : piece.parts.flatten =
    piece.before ++ (piece.opening.text.toList ++ (piece.inside ++ piece.opening.closingText)) := by
  simp [parts, ← hyphen_append_body piece, ← core_append_hyphen piece]

theorem inner_eq (piece : Piece) : piece.inner = ⟨piece.opensWithHyphen, piece.closesWithHyphen, piece.source⟩ := by
  have hHyphen : startsWithHyphen piece.inside = piece.opensWithHyphen := by
    rw [opensWithHyphen]
    cases piece.inside with
    | nil => rfl
    | cons c rest => by_cases h : c = '-' <;> simp [startsWithHyphen, h]
  have hBody : (if piece.opensWithHyphen = true then piece.inside.tail else piece.inside) = piece.body := rfl
  simp only [inner, Inner.ofText, hHyphen, List.drop_one, hBody, trim_eq_trimmed, source, core, closesWithHyphen]
  by_cases h : piece.body.getLast? = some '-' <;> simp [h]

theorem source_eq_inner (piece : Piece) : piece.source = piece.inner.source := by rw [inner_eq]

/-- A piece is read as the markup that it stands for, unless it is a tag without a name. -/
theorem opening_markup_eq_ok_iff :
    piece.opening.markup piece.inner.source line = .ok m ↔ piece.IsNamed ∧ m = piece.markup line := by
  rw [inner_eq, IsNamed, markup]
  cases piece.opening with
  | output => exact ⟨fun h => ⟨nofun, (Except.ok.inj h).symm⟩, fun h => congrArg Except.ok h.2.symm⟩
  | tag =>
    have hName : piece.source.takeWhile (!isBlank ·) = piece.name := rfl
    rw [Opening.markup, trim_drop_one, ← header, hName]
    cases piece.name <;> simp [eq_comm]

end Parts

end Piece

/-! ## Cutting up to some place -/

/-- From its start, a text is cut into pieces up to what is left. Each piece ends with the first closing behind the first
opening that is left. -/
inductive CutUpTo : List Char → List Piece → List Char → Prop where
  | start (s : List Char) : CutUpTo s [] s
  | piece {s before behind inside after rest : List Char} {opening : Opening} {pieces : List Piece}
    (hOpening : FirstOpening s before opening behind) (hClosing : FirstClosing opening behind inside after)
    (hAfter : CutUpTo after pieces rest) : CutUpTo s (⟨before, opening, inside⟩ :: pieces) rest

/-- What is left opens markup that cannot be read: no closing follows the first opening, or it is that of a tag without a
name. -/
inductive Stuck (rest : List Char) : Prop where
  | unclosed {before behind : List Char} {opening : Opening} (hOpening : FirstOpening rest before opening behind)
    (hClosing : ¬opening.closingText <:+: behind)
  | unnamed {before behind inside after : List Char} (hOpening : FirstOpening rest before .tag behind)
    (hClosing : FirstClosing .tag behind inside after) (hName : (⟨before, .tag, inside⟩ : Piece).name = [])

section Cuts

variable {s rest before behind inside after : List Char} {pieces : List Piece} {opening : Opening}

theorem cut_iff_cutUpTo {last : List Char} :
    Cut s pieces last ↔ CutUpTo s pieces last ∧ ∀ o : Opening, ¬o.text.toList <:+: last := by
  constructor
  · intro h
    induction h with
    | last hOpening => exact ⟨.start _, splitAtOpening_eq_none_iff_nowhere.1 hOpening⟩
    | piece hOpening hClosing _ ih =>
      exact ⟨.piece (splitAtOpening_eq_some_iff_first.1 hOpening) (splitAtClosing_eq_some_iff_first.1 hClosing) ih.1, ih.2⟩
  · rintro ⟨h, hLast⟩
    induction h with
    | start => exact .last (splitAtOpening_eq_none_iff_nowhere.2 hLast)
    | piece hOpening hClosing _ ih =>
      exact .piece (splitAtOpening_eq_some_iff_first.2 hOpening) (splitAtClosing_eq_some_iff_first.2 hClosing) (ih hLast)

theorem CutUpTo.concat (h : CutUpTo s pieces rest) (hOpening : FirstOpening rest before opening behind)
    (hClosing : FirstClosing opening behind inside after) :
    CutUpTo s (pieces ++ [⟨before, opening, inside⟩]) after := by
  induction h with
  | start => exact .piece hOpening hClosing (.start _)
  | piece hOpening' hClosing' _ ih => exact .piece hOpening' hClosing' (ih hOpening)

/-- Nothing of a text is lost where it is cut. -/
theorem CutUpTo.text_eq (h : CutUpTo s pieces rest) : s = (pieces.flatMap Piece.parts ++ [rest]).flatten := by
  induction h with
  | start => simp
  | piece hOpening hClosing _ ih =>
    rw [hOpening.text_eq, hClosing.text_eq, List.flatMap_cons, List.append_assoc, List.flatten_append,
      Piece.flatten_parts, ← ih]
    simp only [List.append_assoc]

end Cuts

/-! ## Where a scan fails -/

section Failure

variable {s rest : List Char} {pieces : List Piece} {source : String} {e : Error}

/-- Wherever a scan has come to, the source is cut up to there. -/
theorem Scan.Reached.exists_cutUpTo {scan : Scan} (h : Reached source scan) :
    ∃ pieces, CutUpTo source.toList pieces scan.rest := by
  induction h with
  | refl => exact ⟨[], .start _⟩
  | tail _ hStep ih =>
    obtain ⟨pieces, hPieces⟩ := ih
    cases hStep with
    | read hReads =>
      exact ⟨_, hPieces.concat (splitAtOpening_eq_some_iff_first.1 hReads.meets)
        (splitAtClosing_eq_some_iff_first.1 hReads.closes)⟩

theorem Scan.Fails.stuck {scan : Scan} {text behind : List Char} {opening : Opening}
    (h : scan.Fails text opening behind e) : Stuck scan.rest := by
  cases h with
  | unclosed hMeets hClosing =>
    exact .unclosed (splitAtOpening_eq_some_iff_first.1 hMeets) (splitAtClosing_eq_none_iff_nowhere.1 hClosing)
  | emptyTag hMeets hClosing hEmpty =>
    refine .unnamed (splitAtOpening_eq_some_iff_first.1 hMeets) (splitAtClosing_eq_some_iff_first.1 hClosing) ?_
    rw [Piece.name, Piece.source_eq_inner, Piece.inner, hEmpty, List.takeWhile_nil]

theorem exists_error_of_unnamed {piece : Piece} (h : ¬piece.IsNamed) (line : Nat) :
    ∃ e, piece.opening.markup piece.inner.source line = .error e := by
  cases hMarkup : piece.opening.markup piece.inner.source line with
  | error e => exact ⟨e, rfl⟩
  | ok m => exact absurd (Piece.opening_markup_eq_ok_iff.1 hMarkup).1 h

/-- A scan that comes to markup which cannot be read fails, there or before. -/
theorem exists_error_of_stuck (h : CutUpTo s pieces rest) (hStuck : Stuck rest) {fuel : Nat} (hFuel : s.length < fuel)
    (trimsStart : Bool) (line : Nat) : ∃ e, scanFrom fuel trimsStart line s = .error e := by
  induction h generalizing fuel trimsStart line with
  | start rest =>
    obtain ⟨fuel, rfl⟩ := Nat.exists_eq_succ_of_ne_zero (Nat.ne_zero_of_lt hFuel)
    cases hStuck with
    | unclosed hOpening hClosing =>
      simp only [scanFrom, splitAtOpening_eq_some_iff_first.2 hOpening, splitAtClosing_eq_none_iff_nowhere.2 hClosing]
      exact ⟨_, rfl⟩
    | @unnamed before behind inside after hOpening hClosing hName =>
      obtain ⟨e, hError⟩ := exists_error_of_unnamed (fun h => h rfl hName) (line + newlines before)
      have hError : Opening.tag.markup (Inner.ofText inside).source (line + newlines before) = .error e := hError
      simp only [scanFrom, splitAtOpening_eq_some_iff_first.2 hOpening, splitAtClosing_eq_some_iff_first.2 hClosing, hError]
      exact ⟨e, rfl⟩
  | @piece s before behind inside after rest opening pieces hOpening hClosing _ ih =>
    obtain ⟨fuel, rfl⟩ := Nat.exists_eq_succ_of_ne_zero (Nat.ne_zero_of_lt hFuel)
    have hOpening := splitAtOpening_eq_some_iff_first.2 hOpening
    have hClosing := splitAtClosing_eq_some_iff_first.2 hClosing
    have hAfter : after.length < fuel :=
      Nat.lt_of_lt_of_le (length_lt_of_splits hOpening hClosing) (Nat.le_of_lt_succ hFuel)
    simp only [scanFrom, hOpening, hClosing]
    cases opening.markup (Inner.ofText inside).source (line + newlines before) with
    | error e => exact ⟨e, rfl⟩
    | ok m =>
      obtain ⟨e, hError⟩ := ih hStuck hAfter (Inner.ofText inside).trimsAfter (line + newlines before + newlines inside)
      rw [ok_bind, hError]
      exact ⟨e, rfl⟩

/-- A scan fails just if, piece by piece, it comes to markup that cannot be read. -/
theorem exists_scan_eq_error_iff :
    (∃ e, scan source = .error e) ↔ ∃ pieces rest, CutUpTo source.toList pieces rest ∧ Stuck rest := by
  constructor
  · rintro ⟨e, h⟩
    obtain ⟨s, _, _, _, hReached, hFails⟩ := Scan.scan_eq_error_iff.1 h
    obtain ⟨pieces, hPieces⟩ := hReached.exists_cutUpTo
    exact ⟨pieces, s.rest, hPieces, hFails.stuck⟩
  · rintro ⟨pieces, rest, hPieces, hStuck⟩
    exact exists_error_of_stuck hPieces hStuck (Nat.lt_succ_self _) false 1

end Failure

/-! ## The markup of a division -/

/-- A row of texts with markup between them: a text in front of the markup of each piece, and a last one. -/
structure Division where
  pieces : List Piece
  last : List Char

namespace Division

/-- The text at a position, counted from zero. -/
def text (d : Division) (i : Nat) : List Char := (d.pieces[i]?.map Piece.before).getD d.last

/-- There is markup in front of the text, and it ends with a hyphen. -/
def trimsStart (d : Division) : Nat → Bool
  | 0 => false
  | i + 1 => d.pieces[i]?.any Piece.closesWithHyphen

/-- There is markup behind the text, and it starts with a hyphen. -/
def trimsEnd (d : Division) (i : Nat) : Bool := d.pieces[i]?.any Piece.opensWithHyphen

/-- The text without the white space that is trimmed. -/
def shownText (d : Division) (i : Nat) : List Char :=
  let s := if d.trimsStart i then (d.text i).dropWhile isBlank else d.text i
  if d.trimsEnd i then s.rdropWhile isBlank else s

/-- The line on which a text ends and the markup behind it starts. -/
def line (d : Division) (i : Nat) : Nat :=
  1 + newlines (((d.pieces.take i).flatMap Piece.parts).flatten ++ d.text i)

/-- A text, unless nothing is left of it, and the markup behind it. -/
def markupAt (d : Division) (i : Nat) : List Markup :=
  (if d.shownText i = [] then [] else [.text (String.ofList (d.shownText i))]) ++
    (d.pieces[i]?.map fun piece => piece.markup (d.line i)).toList

/-- All texts and all markup, one after the other. -/
def markup (d : Division) : List Markup := (List.range (d.pieces.length + 1)).flatMap d.markupAt

/-- The division is that of a source: each piece ends with the first closing behind the first opening that is left, and the
last text has no opening in it. -/
structure IsOf (d : Division) (s : List Char) : Prop where
  pieces : CutUpTo s d.pieces d.last
  last : ∀ o : Opening, ¬o.text.toList <:+: d.last

end Division

section Markup

variable {pieces : List Piece} {front : List Markup}

theorem textMarkup_eq (trimsStart trimsEnd : Bool) (s : List Char) :
    textMarkup trimsStart trimsEnd s =
      let s := if trimsStart then s.dropWhile isBlank else s
      let s := if trimsEnd then s.rdropWhile isBlank else s
      if s = [] then [] else [.text (String.ofList s)] := by
  simp only [textMarkup, skipBlank_eq_dropWhile, trimEnd_eq_rdropWhile, List.isEmpty_iff]

theorem newlines_parts (pieces : List Piece) : newlines (pieces.flatMap Piece.parts).flatten = piecesNewlines pieces := by
  induction pieces with
  | nil => rfl
  | cons piece rest ih =>
    have hClosing : newlines piece.opening.closingText = 0 := newlines_closingText piece.opening
    simp only [List.flatMap_cons, List.flatten_append, Piece.flatten_parts, newlines_append, newlines_openingText, hClosing,
      ih, piecesNewlines]
    omega

/-- What stands at a position does not depend on what comes later. -/
theorem Division.trimsStart_append (more : List Piece) (last last' : List Char) {i : Nat} (h : i ≤ pieces.length) :
    (⟨pieces ++ more, last⟩ : Division).trimsStart i = (⟨pieces, last'⟩ : Division).trimsStart i := by
  cases i with
  | zero => rfl
  | succ i => rw [trimsStart, trimsStart, List.getElem?_append_left (by omega)]

theorem Division.markupAt_append (more : List Piece) (last last' : List Char) {i : Nat} (h : i < pieces.length) :
    (⟨pieces ++ more, last⟩ : Division).markupAt i = (⟨pieces, last'⟩ : Division).markupAt i := by
  have hStart := trimsStart_append more last last' (Nat.le_of_lt h)
  have hTake : (pieces ++ more).take i = pieces.take i := List.take_append_of_le_length (by omega)
  simp only [markupAt, shownText, line, trimsEnd, text, hStart, hTake, List.getElem?_append_left h,
    List.getElem?_eq_getElem h, Option.map_some, Option.getD_some]

theorem Division.trimsStart_length (pieces : List Piece) (last : List Char) :
    (⟨pieces, last⟩ : Division).trimsStart pieces.length = trimsAfter false pieces := by
  rcases List.eq_nil_or_concat pieces with rfl | ⟨front, piece, rfl⟩
  · rfl
  · simp [trimsStart, trimsAfter_append, trimsAfter, Piece.inner_eq]

/-- Behind all pieces stands the last text. -/
theorem Division.markupAt_length (pieces : List Piece) (last : List Char) :
    (⟨pieces, last⟩ : Division).markupAt pieces.length = textMarkup (trimsAfter false pieces) false last := by
  simp [markupAt, shownText, text, trimsEnd, trimsStart_length, textMarkup_eq]

/-- At the position of a piece stands its text with its markup. -/
theorem Division.markupAt_concat (pieces : List Piece) (piece : Piece) (last : List Char) :
    (⟨pieces ++ [piece], last⟩ : Division).markupAt pieces.length =
      textMarkup (trimsAfter false pieces) piece.opensWithHyphen piece.before ++
        [piece.markup (1 + piecesNewlines pieces + newlines piece.before)] := by
  have hStart := trimsStart_append [piece] last last (Nat.le_refl pieces.length)
  rw [trimsStart_length] at hStart
  have hLine : (⟨pieces ++ [piece], last⟩ : Division).line pieces.length =
      1 + piecesNewlines pieces + newlines piece.before := by
    simp [line, text, newlines_append, newlines_parts, Nat.add_assoc]
  simp [markupAt, shownText, text, trimsEnd, hStart, hLine, textMarkup_eq]

theorem piecesMarkup_one_eq_ok_iff {trimsStart : Bool} {line : Nat} {piece : Piece} {ms : List Markup} :
    piecesMarkup trimsStart line [piece] = .ok ms ↔ piece.IsNamed ∧
      ms = textMarkup trimsStart piece.opensWithHyphen piece.before ++ [piece.markup (line + newlines piece.before)] := by
  have hBefore : piece.inner.trimsBefore = piece.opensWithHyphen := by rw [Piece.inner_eq]
  simp only [piecesMarkup, bind_eq_ok, Piece.opening_markup_eq_ok_iff, ok_bind, pure_eq_ok, Except.ok.injEq, hBefore]
  constructor
  · rintro ⟨_, ⟨hNamed, rfl⟩, rfl⟩
    exact ⟨hNamed, rfl⟩
  · rintro ⟨hNamed, rfl⟩
    exact ⟨_, ⟨hNamed, rfl⟩, rfl⟩

/-- The markup of pieces is what stands at their positions. -/
theorem piecesMarkup_eq_ok_iff (last : List Char) :
    piecesMarkup false 1 pieces = .ok front ↔ (∀ piece ∈ pieces, piece.IsNamed) ∧
      front = (List.range pieces.length).flatMap (⟨pieces, last⟩ : Division).markupAt := by
  induction pieces using List.reverseRecOn generalizing front with
  | nil => simp [piecesMarkup, eq_comm]
  | append_singleton pieces piece ih =>
    have hFront : (List.range pieces.length).flatMap (⟨pieces ++ [piece], last⟩ : Division).markupAt =
        (List.range pieces.length).flatMap (⟨pieces, last⟩ : Division).markupAt :=
      List.flatMap_congr fun i hi => Division.markupAt_append [piece] last last (List.mem_range.1 hi)
    rw [piecesMarkup_append, List.length_append, List.length_singleton, List.range_succ, List.flatMap_append, hFront,
      List.flatMap_singleton, Division.markupAt_concat, List.forall_mem_append, List.forall_mem_singleton]
    simp only [bind_eq_ok, ih, piecesMarkup_one_eq_ok_iff, pure_eq_ok, Except.ok.injEq]
    constructor
    · rintro ⟨_, ⟨hPieces, rfl⟩, _, ⟨hPiece, rfl⟩, rfl⟩
      exact ⟨⟨hPieces, hPiece⟩, rfl⟩
    · rintro ⟨⟨hPieces, hPiece⟩, rfl⟩
      exact ⟨_, ⟨hPieces, rfl⟩, _, ⟨hPiece, rfl⟩, rfl⟩

end Markup

theorem scan_eq_ok_iff {source : String} {ms : List Markup} :
    scan source = .ok ms ↔
      ∃ d : Division, d.IsOf source.toList ∧ (∀ piece ∈ d.pieces, piece.IsNamed) ∧ ms = d.markup := by
  have hMarkup (pieces : List Piece) (last : List Char) : (⟨pieces, last⟩ : Division).markup =
      (List.range pieces.length).flatMap (⟨pieces, last⟩ : Division).markupAt ++
        textMarkup (trimsAfter false pieces) false last := by
    rw [Division.markup, List.range_succ, List.flatMap_append, List.flatMap_singleton, Division.markupAt_length]
  constructor
  · intro h
    obtain ⟨pieces, last, front, hCut, hFront, rfl⟩ := exists_cut_of_scan h
    obtain ⟨hPieces, hLast⟩ := cut_iff_cutUpTo.1 hCut
    obtain ⟨hNamed, rfl⟩ := (piecesMarkup_eq_ok_iff last).1 hFront
    exact ⟨⟨pieces, last⟩, ⟨hPieces, hLast⟩, hNamed, (hMarkup pieces last).symm⟩
  · rintro ⟨⟨pieces, last⟩, ⟨hPieces, hLast⟩, hNamed, rfl⟩
    rw [scan_of_cut (cut_iff_cutUpTo.2 ⟨hPieces, hLast⟩), (piecesMarkup_eq_ok_iff last).2 ⟨hNamed, rfl⟩, hMarkup]
    rfl

/-- Between two parts of a text stands no character that is split: the bytes of the first part end with a whole one. -/
theorem isValid_of_text_eq {source : String} {front back : List Char} (h : source.toList = front ++ back) :
    (String.ofList front).rawEndPos.IsValid source := by
  rw [String.Pos.Raw.isValid_iff_exists_append]
  refine ⟨String.ofList front, String.ofList back, ?_, rfl⟩
  rw [← String.ofList_append, ← h, String.ofList_toList]

/-- A source is scanned just if it can be divided into texts and markup whose tags have names, and then the scan gives the
markup of the division. It fails just if, on the way, it comes to markup that is not closed or to a tag without a name.
However far the source is cut, nothing of it is lost, and each cut is between two characters. -/
theorem scan_divides_every_source (source : String) :
    (∀ ms, scan source = .ok ms ↔
      ∃ d : Division, d.IsOf source.toList ∧ (∀ piece ∈ d.pieces, piece.IsNamed) ∧ ms = d.markup) ∧
    ((∃ e, scan source = .error e) ↔ ∃ pieces rest, CutUpTo source.toList pieces rest ∧ Stuck rest) ∧
    ∀ pieces rest, CutUpTo source.toList pieces rest →
      source.toList = (pieces.flatMap Piece.parts ++ [rest]).flatten ∧
      ∀ front back, pieces.flatMap Piece.parts ++ [rest] = front ++ back →
        (String.ofList front.flatten).rawEndPos.IsValid source := by
  refine ⟨fun ms => scan_eq_ok_iff, exists_scan_eq_error_iff, fun pieces rest h => ?_⟩
  have hText := h.text_eq
  refine ⟨hText, fun front back hParts => isValid_of_text_eq (?_ : _ = _ ++ back.flatten)⟩
  rw [hText, hParts, List.flatten_append]

/-- A hyphen that stands alone is the one behind the opening, and a closing does not share a character with its opening. -/
example : scan "\x7b\x7b-\x7d\x7d \x7b%\x7d%\x7d" = .ok [.output "" 1, .text " ", .tag "\x7d" "" 1] := by rfl

end TemplateQuery.Template
