import Mathlib.Logic.Relation
import TemplateQuery.Proofs.Template.Faults
import TemplateQuery.Proofs.Template.Pieces
import TemplateQuery.Proofs.Text.Letters

/-!
# Scanning

The scanner moves through a template from one markup to the next, and counts lines on its way. Wherever it has come to,
its count is one more than the line breaks behind it, so each markup that it gives and each fault that it finds has the
line on which its opening stands.
-/
namespace TemplateQuery.Template

open Text (isBlank trim)

/-! ## Markup and its line -/

section Markup

variable {opening : Opening} {line : Nat} {front back : List Markup} {m : Markup}

theorem newlines_append (s t : List Char) : newlines (s ++ t) = newlines s + newlines t := List.count_append

theorem newlines_openingText (opening : Opening) : newlines opening.text.toList = 0 := by cases opening <;> rfl

theorem newlines_closingText (opening : Opening) : newlines [opening.closing, '\x7d'] = 0 := by cases opening <;> rfl

theorem Opening.line?_of_markup {source : List Char} (h : opening.markup source line = .ok m) :
    m.line? = some line := by
  cases opening with
  | output =>
    cases h
    rfl
  | tag =>
    rw [Opening.markup] at h
    split at h <;> cases h
    rfl

theorem Opening.emptyTag_of_markup {s : List Char} {e : Error} (h : opening.markup (trim s) line = .error e) :
    opening = .tag ∧ trim s = [] ∧ e = .unbalanced .emptyTag line := by
  cases opening with
  | output => cases h
  | tag =>
    rw [Opening.markup] at h
    split at h
    · rename_i hName
      cases h
      exact ⟨rfl, Text.trim_eq_nil_of_takeWhile hName, rfl⟩
    · cases h

theorem line?_of_mem_textMarkup {trimsStart trimsEnd : Bool} {s : List Char}
    (h : m ∈ textMarkup trimsStart trimsEnd s) : m.line? = none := by
  have hText : ∀ t : List Char, (m ∈ if t.isEmpty then [] else [Markup.text (String.ofList t)]) → m.line? = none := by
    intro t ht
    split at ht
    · cases ht
    · rw [List.mem_singleton.1 ht]
      rfl
  exact hText _ h

/-- Markup with a line that comes after texts is the next markup or comes after it. -/
theorem append_cons_eq_of_line? {texts rest : List Markup} {next : Markup} (hTexts : ∀ t ∈ texts, t.line? = none)
    (hLine : m.line? = some line) (h : front ++ m :: back = texts ++ next :: rest) :
    (front = texts ∧ m = next) ∨ ∃ more, front = texts ++ next :: more ∧ rest = more ++ m :: back := by
  rcases List.append_eq_append_iff.1 h with ⟨middle, rfl, hTail⟩ | ⟨middle, rfl, hTail⟩
  · cases middle with
    | nil =>
      cases hTail
      exact .inl ⟨(List.append_nil front).symm, rfl⟩
    | cons t middle =>
      cases hTail
      rw [hTexts m (List.mem_append_right _ List.mem_cons_self)] at hLine
      cases hLine
  · cases middle with
    | nil =>
      cases hTail
      exact .inl ⟨List.append_nil texts, rfl⟩
    | cons t middle =>
      cases hTail
      exact .inr ⟨middle, rfl, rfl⟩

end Markup

/-! ## Steps of a scan -/

/-- How far a scan has come: the markup so far, whether the next text is trimmed at its start, and the characters before
and after. -/
structure Scan where
  markup : List Markup
  trimsStart : Bool
  before : List Char
  rest : List Char

namespace Scan

def start (source : String) : Scan := ⟨[], false, [], source.toList⟩

/-- The line that the scan has come to. -/
def line (s : Scan) : Nat := 1 + newlines s.before

/-- Next come a text and an opening, with some characters behind it. -/
def Meets (s : Scan) (text : List Char) (opening : Opening) (behind : List Char) : Prop :=
  splitAtOpening s.rest = some (text, opening, behind)

/-- Markup is read from the inside of what the scan meets. Its line is that of its opening. -/
structure Reads (s : Scan) (text : List Char) (opening : Opening) (behind inside after : List Char) (m : Markup) :
    Prop where
  meets : s.Meets text opening behind
  closes : splitAtClosing opening.closing behind = some (inside, after)
  markup : opening.markup (Inner.ofText inside).source (1 + newlines (s.before ++ text)) = .ok m

/-- The markup so far with the text in front of what is read next. -/
def markupBefore (s : Scan) (text inside : List Char) : List Markup :=
  s.markup ++ textMarkup s.trimsStart (Inner.ofText inside).trimsBefore text

def past (s : Scan) (text : List Char) (opening : Opening) (inside after : List Char) (m : Markup) : Scan where
  markup := s.markupBefore text inside ++ [m]
  trimsStart := (Inner.ofText inside).trimsAfter
  before := s.before ++ text ++ opening.text.toList ++ inside ++ [opening.closing, '\x7d']
  rest := after

inductive Step : Scan → Scan → Prop where
  | read {s : Scan} {text behind inside after : List Char} {opening : Opening} {m : Markup}
    (h : s.Reads text opening behind inside after m) : Step s (s.past text opening inside after m)

/-- The scan of a source comes so far. -/
def Reached (source : String) (s : Scan) : Prop := Relation.ReflTransGen Step (start source) s

section Steps

variable {source : String} {s : Scan} {text behind inside after : List Char} {opening : Opening} {m : Markup}

theorem Reads.rest_eq (h : s.Reads text opening behind inside after m) :
    s.rest = text ++ (opening.text.toList ++ (inside ++ opening.closing :: '\x7d' :: after)) := by
  obtain ⟨hRest, -⟩ := splitAtOpening_eq_some_iff.1 h.meets
  rw [hRest, eq_of_splitAtClosing h.closes]

theorem Reached.past (h : Reached source s) (hReads : s.Reads text opening behind inside after m) :
    Reached source (s.past text opening inside after m) :=
  Relation.ReflTransGen.tail h (.read hReads)

/-- A scan leaves out none of the source. -/
theorem Reached.source_eq (h : Reached source s) : source.toList = s.before ++ s.rest := by
  induction h with
  | refl => rfl
  | tail _ hStep ih =>
    cases hStep with
    | read hReads =>
      rw [ih, hReads.rest_eq]
      simp [Scan.past]

theorem Reached.source_eq_of_meets (h : Reached source s) (hMeets : s.Meets text opening behind) :
    source.toList = s.before ++ text ++ (opening.text.toList ++ behind) := by
  rw [h.source_eq, (splitAtOpening_eq_some_iff.1 hMeets).1, List.append_assoc]

theorem line_add_newlines (s : Scan) (text : List Char) : s.line + newlines text = 1 + newlines (s.before ++ text) := by
  rw [line, newlines_append, Nat.add_assoc]

theorem line_past : (s.past text opening inside after m).line = s.line + newlines text + newlines inside := by
  simp only [line, Scan.past, newlines_append, newlines_openingText, newlines_closingText]
  omega

/-- What the scanner makes of the rest, together with the markup so far. -/
def finish (fuel : Nat) (s : Scan) : Except Error (List Markup) :=
  (scanFrom fuel s.trimsStart s.line s.rest).map (s.markup ++ ·)

theorem finish_start : (start source).finish (source.toList.length + 1) = scan source := by
  change (scan source).map ([] ++ ·) = scan source
  cases scan source <;> rfl

theorem Reads.length_lt (h : s.Reads text opening behind inside after m) {fuel : Nat}
    (hFuel : s.rest.length < fuel + 1) : after.length < fuel :=
  Nat.lt_of_lt_of_le (length_lt_of_splits h.meets h.closes) (Nat.le_of_lt_succ hFuel)

/-- Markup has the line of its opening. -/
theorem Reads.line?_eq (h : s.Reads text opening behind inside after m) :
    m.line? = some (1 + newlines (s.before ++ text)) :=
  Opening.line?_of_markup h.markup

/-- The scanner takes a step and counts its lines. -/
theorem Reads.finish_eq (h : s.Reads text opening behind inside after m) (fuel : Nat) :
    s.finish (fuel + 1) = (s.past text opening inside after m).finish fuel := by
  have hLine : s.line + newlines text = 1 + newlines (s.before ++ text) := s.line_add_newlines text
  have hOpening : splitAtOpening s.rest = some (text, opening, behind) := h.meets
  rw [finish, finish, line_past]
  simp only [scanFrom, hOpening, h.closes, hLine, h.markup, ok_bind, map_bind_eq]
  simp only [Scan.past, markupBefore]
  cases scanFrom fuel (Inner.ofText inside).trimsAfter (1 + newlines (s.before ++ text) + newlines inside) after with
  | error e => rfl
  | ok ms => simp [Except.map]

/-- A scan goes on from wherever it has come to. -/
theorem Reached.exists_finish (h : Reached source s) : ∃ fuel, s.rest.length < fuel ∧ scan source = s.finish fuel := by
  induction h with
  | refl => exact ⟨_, Nat.lt_succ_self _, finish_start.symm⟩
  | tail _ hStep ih =>
    cases hStep with
    | read hReads =>
      obtain ⟨fuel, hFuel, hScan⟩ := ih
      cases fuel with
      | zero => cases hFuel
      | succ fuel =>
        refine ⟨fuel, hReads.length_lt hFuel, ?_⟩
        rw [hScan, hReads.finish_eq]

end Steps

/-! ## Where a scan fails and where markup stands -/

/-- A scan that has come so far fails at the opening that it meets: the markup is not closed, or it is an empty tag. -/
inductive Fails (s : Scan) : List Char → Opening → List Char → Error → Prop where
  | unclosed {text behind : List Char} {opening : Opening} (hMeets : s.Meets text opening behind)
    (hClosing : splitAtClosing opening.closing behind = none) :
    Fails s text opening behind (.unbalanced (.unclosed opening.text) (1 + newlines (s.before ++ text)))
  | emptyTag {text behind inside after : List Char} (hMeets : s.Meets text .tag behind)
    (hClosing : splitAtClosing '%' behind = some (inside, after)) (hEmpty : (Inner.ofText inside).source = []) :
    Fails s text .tag behind (.unbalanced .emptyTag (1 + newlines (s.before ++ text)))

section Ends

variable {source : String} {s : Scan} {text behind : List Char} {opening : Opening} {e : Error}

theorem Fails.meets (h : s.Fails text opening behind e) : s.Meets text opening behind := by
  cases h with
  | unclosed hMeets => exact hMeets
  | emptyTag hMeets => exact hMeets

theorem Fails.line?_eq (h : s.Fails text opening behind e) : e.line? = some (1 + newlines (s.before ++ text)) := by
  cases h <;> rfl

theorem Fails.finish_eq (h : s.Fails text opening behind e) (fuel : Nat) : s.finish (fuel + 1) = .error e := by
  have hOpening : splitAtOpening s.rest = some (text, opening, behind) := h.meets
  cases h with
  | unclosed _ hClosing =>
    simp only [finish, scanFrom, hOpening, hClosing, line_add_newlines]
    rfl
  | emptyTag _ hClosing hEmpty =>
    simp only [finish, scanFrom, hOpening, Opening.closing, hClosing, line_add_newlines, hEmpty]
    rfl

/-- A scan is at its last text, or it fails at the opening it meets, or it reads some markup and goes on. -/
theorem finish_cases (s : Scan) (fuel : Nat) :
    s.finish (fuel + 1) = .ok (s.markup ++ textMarkup s.trimsStart false s.rest) ∨
    (∃ text opening behind e, s.Fails text opening behind e ∧ s.finish (fuel + 1) = .error e) ∨
    ∃ text opening behind inside after m, s.Reads text opening behind inside after m ∧
      s.finish (fuel + 1) = (s.past text opening inside after m).finish fuel := by
  cases hOpening : splitAtOpening s.rest with
  | none =>
    refine .inl ?_
    simp only [finish, scanFrom, hOpening]
    rfl
  | some split =>
    obtain ⟨text, opening, behind⟩ := split
    have hMeets : s.Meets text opening behind := hOpening
    cases hClosing : splitAtClosing opening.closing behind with
    | none =>
      have hFails := Fails.unclosed hMeets hClosing
      exact .inr (.inl ⟨_, _, _, _, hFails, hFails.finish_eq fuel⟩)
    | some split =>
      obtain ⟨inside, after⟩ := split
      cases hMarkup : opening.markup (Inner.ofText inside).source (1 + newlines (s.before ++ text)) with
      | error e =>
        obtain ⟨rfl, hEmpty, rfl⟩ := Opening.emptyTag_of_markup hMarkup
        have hFails := Fails.emptyTag hMeets hClosing hEmpty
        exact .inr (.inl ⟨_, _, _, _, hFails, hFails.finish_eq fuel⟩)
      | ok m =>
        have hReads : s.Reads text opening behind inside after m := ⟨hMeets, hClosing, hMarkup⟩
        exact .inr (.inr ⟨_, _, _, _, _, _, hReads, hReads.finish_eq fuel⟩)

theorem exists_fails_of_finish {fuel : Nat} (hReached : Reached source s) (hFuel : s.rest.length < fuel)
    (h : s.finish fuel = .error e) :
    ∃ s' text opening behind, Reached source s' ∧ s'.Fails text opening behind e := by
  induction fuel generalizing s with
  | zero => cases hFuel
  | succ fuel ih =>
    rcases s.finish_cases fuel with hEnd | ⟨_, _, _, _, hFails, hError⟩ | ⟨_, _, _, _, _, _, hReads, hNext⟩
    · cases hEnd.symm.trans h
    · cases hError.symm.trans h
      exact ⟨s, _, _, _, hReached, hFails⟩
    · exact ih (hReached.past hReads) (hReads.length_lt hFuel) (hNext.symm.trans h)

/-- The scanner ends with an error just if the scan comes to a place where it fails. -/
theorem scan_eq_error_iff :
    scan source = .error e ↔ ∃ s text opening behind, Reached source s ∧ s.Fails text opening behind e := by
  constructor
  · intro h
    rw [← finish_start] at h
    exact exists_fails_of_finish .refl (Nat.lt_succ_self _) h
  · rintro ⟨s, text, opening, behind, hReached, hFails⟩
    obtain ⟨fuel, hFuel, hScan⟩ := hReached.exists_finish
    cases fuel with
    | zero => cases hFuel
    | succ fuel => rw [hScan, hFails.finish_eq]

theorem exists_reads_of_finish {fuel line : Nat} {front back : List Markup} {m : Markup} (hReached : Reached source s)
    (hFuel : s.rest.length < fuel) (h : s.finish fuel = .ok (s.markup ++ (front ++ m :: back)))
    (hLine : m.line? = some line) :
    ∃ s' text opening behind inside after, Reached source s' ∧ s'.Reads text opening behind inside after m ∧
      s.markup ++ front = s'.markupBefore text inside := by
  induction fuel generalizing s front with
  | zero => cases hFuel
  | succ fuel ih =>
    rcases s.finish_cases fuel with
      hEnd | ⟨_, _, _, _, -, hError⟩ | ⟨text, opening, behind, inside, after, next, hReads, hNext⟩
    · have hText := List.append_cancel_left (Except.ok.inj (hEnd.symm.trans h))
      have hNone : m.line? = none := line?_of_mem_textMarkup (hText ▸ List.mem_append_right _ List.mem_cons_self)
      cases hNone.symm.trans hLine
    · cases hError.symm.trans h
    · rw [hNext] at h
      obtain ⟨rest, -, hAll⟩ := map_eq_ok.1 h
      simp only [Scan.past, markupBefore, List.append_assoc, List.cons_append, List.nil_append] at hAll
      have hSplit := (List.append_cancel_left hAll).symm
      -- Texts have no line, so the markup looked for is what is read now, or it is read later.
      rcases append_cons_eq_of_line? (fun _ => line?_of_mem_textMarkup) hLine hSplit with
        ⟨rfl, rfl⟩ | ⟨more, rfl, rfl⟩
      · exact ⟨s, text, opening, behind, inside, after, hReached, hReads, rfl⟩
      · have hMarkup : (s.past text opening inside after next).markup ++ more =
            s.markup ++ (textMarkup s.trimsStart (Inner.ofText inside).trimsBefore text ++ next :: more) := by
          simp [Scan.past, markupBefore]
        rw [← hMarkup]
        refine ih (hReached.past hReads) (hReads.length_lt hFuel) ?_
        rw [h]
        simp [Scan.past, markupBefore]

/-- Every output statement and every tag of a template is read at some place that the scan comes to. -/
theorem exists_reads_of_scan {line : Nat} {front back : List Markup} {m : Markup}
    (h : scan source = .ok (front ++ m :: back)) (hLine : m.line? = some line) :
    ∃ s text opening behind inside after, Reached source s ∧ s.Reads text opening behind inside after m ∧
      front = s.markupBefore text inside := by
  rw [← finish_start] at h
  exact exists_reads_of_finish .refl (Nat.lt_succ_self _) h hLine

end Ends

end Scan

end TemplateQuery.Template
