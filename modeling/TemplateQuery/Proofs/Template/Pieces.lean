import Mathlib.Data.List.Chain
import TemplateQuery.Proofs.Steps
import TemplateQuery.Template.Markup

/-!
# Pieces

The scanner cuts a template into pieces, each a text and the markup after it, and a last text that opens no markup. The
cut of two templates written one after the other is the cut of the first one, followed by that of the second one with
the text that the first one left over in front of it.
-/
namespace TemplateQuery.Template

/-- The two characters open markup. -/
def Opens (c d : Char) : Prop := c = '\x7b' ∧ (d = '\x7b' ∨ d = '%')

/-- No two characters next to each other open markup. -/
def OpensNothing (s : List Char) : Prop := s.IsChain fun c d => ¬Opens c d

/-- The last character of one text and the first one of the next open markup. -/
def OpensAcross (s t : List Char) : Prop := ∃ c ∈ s.getLast?, ∃ d ∈ t.head?, Opens c d

/-! ## Openings and closings -/

theorem opensNothing_append {s t : List Char} :
    OpensNothing (s ++ t) ↔ OpensNothing s ∧ OpensNothing t ∧ ¬OpensAcross s t := by
  simp only [OpensNothing, List.isChain_append, OpensAcross, not_exists, not_and]

theorem opensNothing_cons {c : Char} {s : List Char} :
    OpensNothing (c :: s) ↔ (∀ d ∈ s.head?, ¬Opens c d) ∧ OpensNothing s := List.isChain_cons

theorem splitAtOpening_text (opening : Opening) (rest : List Char) :
    splitAtOpening (opening.text.toList ++ rest) = some ([], opening, rest) := by
  cases opening <;> rfl

theorem exists_opening_of_opens {c : Char} {s : List Char} (h : ¬∀ d ∈ s.head?, ¬Opens c d) :
    ∃ (opening : Opening) (rest : List Char), c :: s = opening.text.toList ++ rest := by
  push Not at h
  obtain ⟨d, hd, hOpens⟩ := h
  obtain ⟨rest, rfl⟩ := List.head?_eq_some_iff.1 hd
  obtain ⟨rfl, rfl | rfl⟩ := hOpens
  · exact ⟨.output, rest, rfl⟩
  · exact ⟨.tag, rest, rfl⟩

theorem splitAtOpening_cons {c : Char} {s : List Char} (h : ∀ d ∈ s.head?, ¬Opens c d) :
    splitAtOpening (c :: s) = (splitAtOpening s).map fun split => (c :: split.1, split.2) := by
  rw [splitAtOpening]
  · cases splitAtOpening s <;> rfl
  · rintro after rfl rfl
    exact h _ rfl ⟨rfl, .inl rfl⟩
  · rintro after rfl rfl
    exact h _ rfl ⟨rfl, .inr rfl⟩

theorem splitAtOpening_eq_none_iff {s : List Char} : splitAtOpening s = none ↔ OpensNothing s := by
  induction s with
  | nil => simp [splitAtOpening, OpensNothing]
  | cons c s ih =>
    by_cases hOpens : ∀ d ∈ s.head?, ¬Opens c d
    · rw [splitAtOpening_cons hOpens, Option.map_eq_none_iff, ih, opensNothing_cons]
      exact (and_iff_right hOpens).symm
    · obtain ⟨opening, rest, hText⟩ := exists_opening_of_opens hOpens
      have hNot : ¬OpensNothing (c :: s) := fun h => hOpens (opensNothing_cons.1 h).1
      refine iff_of_false (fun hNone => ?_) hNot
      rw [hText, splitAtOpening_text] at hNone
      cases hNone

/-- Every opening begins with a brace. -/
theorem head?_append_opening (before : List Char) (opening : Opening) (rest : List Char) :
    (before ++ (opening.text.toList ++ rest)).head? = (before ++ ['\x7b']).head? := by
  cases before with
  | nil => cases opening <;> rfl
  | cons c before => rfl

theorem splitAtOpening_append_opening {before : List Char} (h : OpensNothing (before ++ ['\x7b'])) (opening : Opening)
    (rest : List Char) : splitAtOpening (before ++ (opening.text.toList ++ rest)) = some (before, opening, rest) := by
  induction before with
  | nil => exact splitAtOpening_text opening rest
  | cons c before ih =>
    rw [List.cons_append, opensNothing_cons, ← head?_append_opening before opening rest] at h
    rw [List.cons_append, splitAtOpening_cons h.1, ih h.2]
    rfl

/-- A text is split at the first place where two characters open markup. -/
theorem splitAtOpening_eq_some_iff {s before rest : List Char} {opening : Opening} :
    splitAtOpening s = some (before, opening, rest) ↔
      s = before ++ (opening.text.toList ++ rest) ∧ OpensNothing (before ++ ['\x7b']) := by
  constructor
  · intro h
    induction s generalizing before with
    | nil => cases h
    | cons c s ih =>
      by_cases hOpens : ∀ d ∈ s.head?, ¬Opens c d
      · rw [splitAtOpening_cons hOpens, Option.map_eq_some_iff] at h
        obtain ⟨⟨before, opening, rest⟩, hSplit, h⟩ := h
        cases h
        obtain ⟨rfl, hBefore⟩ := ih hSplit
        rw [head?_append_opening] at hOpens
        exact ⟨rfl, opensNothing_cons.2 ⟨hOpens, hBefore⟩⟩
      · obtain ⟨opening, rest, hText⟩ := exists_opening_of_opens hOpens
        rw [hText, splitAtOpening_text] at h
        cases h
        exact ⟨hText, List.isChain_singleton _⟩
  · rintro ⟨rfl, h⟩
    exact splitAtOpening_append_opening h opening rest

theorem eq_of_splitAtClosing {first : Char} {s inside after : List Char}
    (h : splitAtClosing first s = some (inside, after)) : s = inside ++ first :: '\x7d' :: after := by
  induction s generalizing inside with
  | nil => cases h
  | cons c s ih =>
    cases s with
    | nil => cases h
    | cons d s =>
      rw [splitAtClosing] at h
      split at h
      · rename_i hCloses
        cases h
        rw [hCloses.1, hCloses.2]
        rfl
      · cases hSplit : splitAtClosing first (d :: s) with
        | none =>
          rw [hSplit] at h
          cases h
        | some split =>
          rw [hSplit] at h
          cases h
          rw [ih hSplit]
          rfl

theorem splitAtClosing_append {first : Char} {s inside after : List Char}
    (h : splitAtClosing first s = some (inside, after)) (t : List Char) :
    splitAtClosing first (s ++ t) = some (inside, after ++ t) := by
  induction s generalizing inside with
  | nil => cases h
  | cons c s ih =>
    cases s with
    | nil => cases h
    | cons d s =>
      rw [splitAtClosing] at h
      rw [List.cons_append, List.cons_append, splitAtClosing]
      by_cases hCloses : c = first ∧ d = '\x7d'
      · rw [if_pos hCloses] at h ⊢
        cases h
        rfl
      · rw [if_neg hCloses] at h ⊢
        cases hSplit : splitAtClosing first (d :: s) with
        | none =>
          rw [hSplit] at h
          cases h
        | some split =>
          rw [hSplit] at h
          cases h
          rw [← List.cons_append, ih hSplit]

theorem suffix_of_splits {first : Char} {s before rest inside after : List Char} {opening : Opening}
    (hOpening : splitAtOpening s = some (before, opening, rest))
    (hClosing : splitAtClosing first rest = some (inside, after)) : after <:+ s := by
  have hRest : rest <:+ s := by
    obtain ⟨rfl, -⟩ := splitAtOpening_eq_some_iff.1 hOpening
    exact ⟨before ++ opening.text.toList, by simp⟩
  have hAfter : after <:+ rest := by
    obtain rfl := eq_of_splitAtClosing hClosing
    exact ⟨inside ++ [first, '\x7d'], by simp⟩
  exact hAfter.trans hRest

theorem length_lt_of_splits {first : Char} {s before rest inside after : List Char} {opening : Opening}
    (hOpening : splitAtOpening s = some (before, opening, rest))
    (hClosing : splitAtClosing first rest = some (inside, after)) : after.length < s.length := by
  obtain ⟨rfl, -⟩ := splitAtOpening_eq_some_iff.1 hOpening
  obtain rfl := eq_of_splitAtClosing hClosing
  simp only [List.length_append, List.length_cons]
  omega

/-! ## Cuts -/

/-- A text and the markup after it. -/
structure Piece where
  before : List Char
  opening : Opening
  inside : List Char

def Piece.inner (piece : Piece) : Inner := Inner.ofText piece.inside

/-- The text is cut into pieces and a last text. -/
inductive Cut : List Char → List Piece → List Char → Prop where
  | last {s : List Char} (hOpening : splitAtOpening s = none) : Cut s [] s
  | piece {s before rest inside after last : List Char} {opening : Opening} {pieces : List Piece}
    (hOpening : splitAtOpening s = some (before, opening, rest))
    (hClosing : splitAtClosing opening.closing rest = some (inside, after)) (hAfter : Cut after pieces last) :
    Cut s (⟨before, opening, inside⟩ :: pieces) last

section Cuts

variable {s t last last' : List Char} {piece : Piece} {pieces more : List Piece}

theorem Cut.last_suffix (h : Cut s pieces last) : last <:+ s := by
  induction h with
  | last => exact List.suffix_refl _
  | piece hOpening hClosing _ ih => exact ih.trans (suffix_of_splits hOpening hClosing)

theorem Cut.opensNothing_last (h : Cut s pieces last) : OpensNothing last := by
  induction h with
  | last hOpening => exact splitAtOpening_eq_none_iff.1 hOpening
  | piece _ _ _ ih => exact ih

theorem Cut.not_opensAcross (h : Cut s pieces last) (hSeam : ¬OpensAcross s t) : ¬OpensAcross last t := by
  obtain ⟨cut, rfl⟩ := h.last_suffix
  rintro ⟨c, hc, hOpens⟩
  refine hSeam ⟨c, ?_, hOpens⟩
  rw [List.getLast?_append, Option.mem_def.1 hc]
  rfl

theorem Cut.append (h : Cut s pieces last) (hMore : Cut (last ++ t) more last') :
    Cut (s ++ t) (pieces ++ more) last' := by
  induction h with
  | last => exact hMore
  | piece hOpening hClosing _ ih =>
    obtain ⟨rfl, hBefore⟩ := splitAtOpening_eq_some_iff.1 hOpening
    refine .piece (splitAtOpening_eq_some_iff.2 ⟨?_, hBefore⟩) (splitAtClosing_append hClosing t) (ih hMore)
    simp only [List.append_assoc]

/-- The piece with some more text in front. -/
def Piece.precededBy (s : List Char) (piece : Piece) : Piece := { piece with before := s ++ piece.before }

theorem Cut.precededBy (h : Cut t (piece :: pieces) last) (hs : OpensNothing s) (hSeam : ¬OpensAcross s t) :
    Cut (s ++ t) (piece.precededBy s :: pieces) last := by
  cases h with
  | @piece _ before _ _ _ _ opening _ hOpening hClosing hAfter =>
    obtain ⟨rfl, hBefore⟩ := splitAtOpening_eq_some_iff.1 hOpening
    have hSeam : ¬OpensAcross s (before ++ ['\x7b']) := by rwa [OpensAcross, ← head?_append_opening]
    have hBefore : OpensNothing (s ++ before ++ ['\x7b']) := by
      rw [List.append_assoc]
      exact opensNothing_append.2 ⟨hs, hBefore, hSeam⟩
    refine .piece (splitAtOpening_eq_some_iff.2 ⟨?_, hBefore⟩) hClosing hAfter
    simp only [List.append_assoc]

end Cuts

/-! ## The markup of pieces -/

/-- The markup of pieces that start on a line, where the markup before them may trim the start of their first text. -/
def piecesMarkup : (trimsStart : Bool) → (line : Nat) → List Piece → Except Error (List Markup)
  | _, _, [] => .ok []
  | trimsStart, line, piece :: rest => do
    let line := line + newlines piece.before
    let m ← piece.opening.markup piece.inner.source line
    let ms ← piecesMarkup piece.inner.trimsAfter (line + newlines piece.inside) rest
    return textMarkup trimsStart piece.inner.trimsBefore piece.before ++ m :: ms

/-- Whether the text after the pieces is trimmed at its start. -/
def trimsAfter : (trimsStart : Bool) → List Piece → Bool
  | trimsStart, [] => trimsStart
  | _, piece :: rest => trimsAfter piece.inner.trimsAfter rest

def piecesNewlines : List Piece → Nat
  | [] => 0
  | piece :: rest => newlines piece.before + newlines piece.inside + piecesNewlines rest

/-- The same markup some lines further down. -/
def Markup.later (lines : Nat) : Markup → Markup
  | .text content => .text content
  | .output source line => .output source (line + lines)
  | .tag name header line => .tag name header (line + lines)

theorem trimsAfter_eq (trimsStart : Bool) (pieces : List Piece) :
    trimsAfter trimsStart pieces = (pieces.getLast?.map fun piece => piece.inner.trimsAfter).getD trimsStart := by
  induction pieces generalizing trimsStart with
  | nil => rfl
  | cons piece rest ih =>
    rw [trimsAfter, ih, List.getLast?_cons]
    cases rest.getLast? <;> rfl

theorem trimsAfter_append (trimsStart : Bool) (pieces more : List Piece) :
    trimsAfter trimsStart (pieces ++ more) = trimsAfter (trimsAfter trimsStart pieces) more := by
  induction pieces generalizing trimsStart with
  | nil => rfl
  | cons piece rest ih => exact ih piece.inner.trimsAfter

theorem piecesMarkup_append (trimsStart : Bool) (line : Nat) (pieces more : List Piece) :
    piecesMarkup trimsStart line (pieces ++ more) = do
      let ms ← piecesMarkup trimsStart line pieces
      let ms' ← piecesMarkup (trimsAfter trimsStart pieces) (line + piecesNewlines pieces) more
      return ms ++ ms' := by
  induction pieces generalizing trimsStart line with
  | nil => exact (bind_pure _).symm
  | cons piece rest ih =>
    have hLine : line + piecesNewlines (piece :: rest) =
        line + newlines piece.before + newlines piece.inside + piecesNewlines rest := by
      rw [piecesNewlines]
      omega
    rw [List.cons_append, piecesMarkup, piecesMarkup, trimsAfter, hLine]
    simp only [ih, bind_assoc, pure_eq_ok, ok_bind, List.append_assoc, List.cons_append]

theorem Opening.markup_later {opening : Opening} {source : List Char} {line : Nat} {m : Markup}
    (h : opening.markup source line = .ok m) (lines : Nat) :
    opening.markup source (line + lines) = .ok (m.later lines) := by
  cases opening with
  | output =>
    cases h
    rfl
  | tag =>
    rw [Opening.markup] at h ⊢
    split at h
    · cases h
    · cases h
      rfl

theorem map_later_textMarkup (lines : Nat) (trimsStart trimsEnd : Bool) (s : List Char) :
    (textMarkup trimsStart trimsEnd s).map (Markup.later lines) = textMarkup trimsStart trimsEnd s := by
  simp only [textMarkup]
  split_ifs <;> rfl

/-- Markup further down in a template is the same but for its lines. -/
theorem piecesMarkup_later {trimsStart : Bool} {line : Nat} {pieces : List Piece} {ms : List Markup}
    (h : piecesMarkup trimsStart line pieces = .ok ms) (lines : Nat) :
    piecesMarkup trimsStart (line + lines) pieces = .ok (ms.map (Markup.later lines)) := by
  induction pieces generalizing trimsStart line ms with
  | nil =>
    cases h
    rfl
  | cons piece rest ih =>
    obtain ⟨m, hMarkup, hRest⟩ := bind_eq_ok.1 h
    obtain ⟨more, hMore, hAll⟩ := bind_eq_ok.1 hRest
    cases hAll
    have hLater := Opening.markup_later hMarkup lines
    have hMoreLater := ih hMore
    rw [piecesMarkup, Nat.add_right_comm line lines, Nat.add_right_comm (line + _) lines]
    simp only [hLater, hMoreLater, ok_bind, pure_eq_ok, List.map_append, List.map_cons, map_later_textMarkup]

/-! ## Scanning -/

theorem scanFrom_of_cut {s last : List Char} {pieces : List Piece} (h : Cut s pieces last) {fuel : Nat}
    (hFuel : s.length < fuel) (trimsStart : Bool) (line : Nat) :
    scanFrom fuel trimsStart line s =
      (piecesMarkup trimsStart line pieces).map (· ++ textMarkup (trimsAfter trimsStart pieces) false last) := by
  induction h generalizing fuel trimsStart line with
  | last hOpening =>
    cases fuel with
    | zero => cases hFuel
    | succ fuel =>
      rw [scanFrom, hOpening]
      rfl
  | @piece s before rest inside after _ opening _ hOpening hClosing _ ih =>
    cases fuel with
    | zero => cases hFuel
    | succ fuel =>
      have hAfter : after.length < fuel :=
        Nat.lt_of_lt_of_le (length_lt_of_splits hOpening hClosing) (Nat.le_of_lt_succ hFuel)
      simp only [scanFrom, hOpening, hClosing, ih hAfter, piecesMarkup, trimsAfter, bind_map_eq, map_bind_eq]
      simp only [Piece.inner, pure_eq_ok, Except.map, List.append_assoc, List.cons_append]

theorem exists_cut_of_scanFrom {fuel : Nat} {trimsStart : Bool} {line : Nat} {s : List Char} {ms : List Markup}
    (hFuel : s.length < fuel) (h : scanFrom fuel trimsStart line s = .ok ms) : ∃ pieces last, Cut s pieces last := by
  induction fuel generalizing trimsStart line s ms with
  | zero => cases hFuel
  | succ fuel ih =>
    rw [scanFrom] at h
    cases hOpening : splitAtOpening s with
    | none => exact ⟨[], s, .last hOpening⟩
    | some split =>
      obtain ⟨before, opening, rest⟩ := split
      simp only [hOpening] at h
      cases hClosing : splitAtClosing opening.closing rest with
      | none =>
        rw [hClosing] at h
        cases h
      | some split =>
        obtain ⟨inside, after⟩ := split
        rw [hClosing] at h
        obtain ⟨m, -, hRest⟩ := bind_eq_ok.1 h
        obtain ⟨more, hMore, -⟩ := bind_eq_ok.1 hRest
        have hAfter : after.length < fuel :=
          Nat.lt_of_lt_of_le (length_lt_of_splits hOpening hClosing) (Nat.le_of_lt_succ hFuel)
        obtain ⟨pieces, last, hCut⟩ := ih hAfter hMore
        exact ⟨_, last, .piece hOpening hClosing hCut⟩

/-- The markup of a template is that of its pieces and its last text. -/
theorem scan_of_cut {source : String} {pieces : List Piece} {last : List Char} (h : Cut source.toList pieces last) :
    scan source = (piecesMarkup false 1 pieces).map (· ++ textMarkup (trimsAfter false pieces) false last) :=
  scanFrom_of_cut h (Nat.lt_succ_self _) false 1

theorem exists_cut_of_scan {source : String} {ms : List Markup} (h : scan source = .ok ms) :
    ∃ pieces last front, Cut source.toList pieces last ∧ piecesMarkup false 1 pieces = .ok front ∧
      ms = front ++ textMarkup (trimsAfter false pieces) false last := by
  obtain ⟨pieces, last, hCut⟩ := exists_cut_of_scanFrom (Nat.lt_succ_self _) h
  rw [scan_of_cut hCut] at h
  obtain ⟨front, hFront, rfl⟩ := map_eq_ok.1 h
  exact ⟨pieces, last, front, hCut, hFront, rfl⟩

/-! ## One template after the other -/

/-- The last markup of the text trims what comes after it. -/
def EndsTrimming (s : List Char) : Prop :=
  ∃ pieces last, Cut s pieces last ∧ ∃ piece ∈ pieces.getLast?, piece.inner.trimsAfter

/-- The first markup of the text trims what comes before it. -/
def StartsTrimming (s : List Char) : Prop :=
  ∃ pieces last, Cut s pieces last ∧ ∃ piece ∈ pieces.head?, piece.inner.trimsBefore

theorem Cut.unique {s last last' : List Char} {pieces more : List Piece} (h : Cut s pieces last)
    (h' : Cut s more last') : more = pieces ∧ last' = last := by
  induction h generalizing more with
  | last hOpening =>
    cases h' with
    | last => exact ⟨rfl, rfl⟩
    | piece hOpening' => cases hOpening.symm.trans hOpening'
  | piece hOpening hClosing _ ih =>
    cases h' with
    | last hOpening' => cases hOpening.symm.trans hOpening'
    | piece hOpening' hClosing' hAfter' =>
      cases hOpening.symm.trans hOpening'
      cases hClosing.symm.trans hClosing'
      obtain ⟨rfl, rfl⟩ := ih hAfter'
      exact ⟨rfl, rfl⟩

theorem Cut.endsTrimming_iff {s last : List Char} {pieces : List Piece} (h : Cut s pieces last) :
    EndsTrimming s ↔ ∃ piece ∈ pieces.getLast?, piece.inner.trimsAfter := by
  refine ⟨?_, fun hTrims => ⟨pieces, last, h, hTrims⟩⟩
  rintro ⟨_, _, hCut, hTrims⟩
  rwa [(h.unique hCut).1] at hTrims

theorem Cut.startsTrimming_iff {s last : List Char} {pieces : List Piece} (h : Cut s pieces last) :
    StartsTrimming s ↔ ∃ piece ∈ pieces.head?, piece.inner.trimsBefore := by
  refine ⟨?_, fun hTrims => ⟨pieces, last, h, hTrims⟩⟩
  rintro ⟨_, _, hCut, hTrims⟩
  rwa [(h.unique hCut).1] at hTrims

theorem Cut.trimsAfter_eq_false {s last : List Char} {pieces : List Piece} (h : Cut s pieces last)
    (hEnds : ¬EndsTrimming s) : trimsAfter false pieces = false := by
  rw [trimsAfter_eq]
  cases hLast : pieces.getLast? with
  | none => rfl
  | some piece => exact Bool.eq_false_iff.2 fun hTrims => hEnds ⟨pieces, last, h, piece, hLast, hTrims⟩

/-- The first text of pieces stands alone in their markup if nothing trims it. -/
theorem exists_back_of_piecesMarkup {line : Nat} {piece : Piece} {rest : List Piece} {ms : List Markup}
    (hTrims : piece.inner.trimsBefore = false) (h : piecesMarkup false line (piece :: rest) = .ok ms) :
    ∃ back, ms = textMarkup false false piece.before ++ back ∧ ∀ s lines,
      piecesMarkup false (line + lines) (piece.precededBy s :: rest) =
        .ok (textMarkup false false (s ++ piece.before) ++ back.map (Markup.later (lines + newlines s))) := by
  obtain ⟨m, hMarkup, hRest⟩ := bind_eq_ok.1 h
  obtain ⟨more, hMore, hAll⟩ := bind_eq_ok.1 hRest
  cases hAll
  refine ⟨m :: more, by rw [hTrims], fun s lines => ?_⟩
  have hLine : line + lines + newlines (s ++ piece.before) = line + newlines piece.before + (lines + newlines s) := by
    simp only [newlines, List.count_append]
    omega
  have hLater := Opening.markup_later hMarkup (lines + newlines s)
  have hMoreLater := piecesMarkup_later hMore (lines + newlines s)
  rw [Nat.add_right_comm] at hMoreLater
  simp only [piecesMarkup, Piece.precededBy, Piece.inner] at hTrims hLater hMoreLater ⊢
  simp only [hLine, hLater, hMoreLater, hTrims, ok_bind, pure_eq_ok, List.map_cons]

/-- The markup of two templates, one after the other, is the markup of both, the second one further down, with the text
where they meet in one piece. -/
theorem scan_append {source more : String} {ms ms' : List Markup} (hSource : scan source = .ok ms)
    (hMore : scan more = .ok ms') (hSeam : ¬OpensAcross source.toList more.toList)
    (hEnds : ¬EndsTrimming source.toList) (hStarts : ¬StartsTrimming more.toList) :
    ∃ front before after back lines, ms = front ++ textMarkup false false before ∧
      ms' = textMarkup false false after ++ back ∧
      scan (source ++ more) =
        .ok (front ++ textMarkup false false (before ++ after) ++ back.map (Markup.later lines)) := by
  obtain ⟨pieces, last, front, hCut, hFront, rfl⟩ := exists_cut_of_scan hSource
  obtain ⟨pieces', last', front', hCut', hFront', rfl⟩ := exists_cut_of_scan hMore
  have hLast : OpensNothing last := hCut.opensNothing_last
  have hSeam : ¬OpensAcross last more.toList := hCut.not_opensAcross hSeam
  have hTrims : trimsAfter false pieces = false := hCut.trimsAfter_eq_false hEnds
  rw [hTrims]
  cases pieces' with
  | nil =>
    cases hFront'
    cases hCut' with
    | last hOpening =>
      have hText : OpensNothing (last ++ more.toList) :=
        opensNothing_append.2 ⟨hLast, splitAtOpening_eq_none_iff.1 hOpening, hSeam⟩
      have hJoined := hCut.append (.last (splitAtOpening_eq_none_iff.2 hText))
      rw [← String.toList_append, List.append_nil] at hJoined
      refine ⟨front, last, more.toList, [], 0, rfl, (List.append_nil _).symm, ?_⟩
      rw [scan_of_cut hJoined, hFront, hTrims, List.map_nil, List.append_nil]
      rfl
  | cons piece rest =>
    have hBefore : piece.inner.trimsBefore = false :=
      Bool.eq_false_iff.2 fun hTrims => hStarts ⟨_, last', hCut', piece, rfl, hTrims⟩
    obtain ⟨back, rfl, hBack⟩ := exists_back_of_piecesMarkup hBefore hFront'
    have hJoined := hCut.append (hCut'.precededBy hLast hSeam)
    rw [← String.toList_append] at hJoined
    refine ⟨front, last, piece.before, back ++ textMarkup (trimsAfter false (piece :: rest)) false last',
      piecesNewlines pieces + newlines last, rfl, List.append_assoc _ _ _, ?_⟩
    rw [scan_of_cut hJoined, piecesMarkup_append, hFront, hTrims, trimsAfter_append, hTrims]
    simp only [ok_bind, hBack, pure_eq_ok, Except.map, List.map_append, map_later_textMarkup, List.append_assoc]
    rfl

end TemplateQuery.Template
