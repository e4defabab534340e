import TemplateQuery.Text.Basic
import TemplateQuery.Text.Letter

/-!
# White space between words

White space at the ends of a text is skipped as a whole. No character is both white space and a letter or a digit.
Outside ASCII the tables decide this, so they are checked range by range against the few spans of white space there.
-/
namespace TemplateQuery.Text

/-! ## Skipping -/

theorem skipBlank_eq_dropWhile (s : List Char) : skipBlank s = s.dropWhile isBlank := by
  induction s with
  | nil => rfl
  | cons c s ih =>
    rw [skipBlank, List.dropWhile_cons, ih]

theorem skipBlank_cons {c : Char} (h : isBlank c = false) (s : List Char) : skipBlank (c :: s) = c :: s := by
  simp [skipBlank, h]

/-- White space in front makes no difference to what is left. -/
theorem skipBlank_append {b : List Char} (h : ∀ c ∈ b, isBlank c = true) (s : List Char) :
    skipBlank (b ++ s) = skipBlank s := by
  induction b with
  | nil => rfl
  | cons c b ih =>
    rw [List.forall_mem_cons] at h
    simp only [List.cons_append, skipBlank, h.1, if_true]
    exact ih h.2

theorem skipBlank_append_cons {b : List Char} (h : ∀ c ∈ b, isBlank c = true) {c : Char} (hc : isBlank c = false)
    (s : List Char) : skipBlank (b ++ c :: s) = c :: s := by
  rw [skipBlank_append h, skipBlank_cons hc]

theorem skipBlank_eq_cons {s : List Char} {c : Char} {rest : List Char} (h : skipBlank s = c :: rest) :
    isBlank c = false := by
  induction s with
  | nil => cases h
  | cons d s ih =>
    by_cases hd : isBlank d = true
    · exact ih (by simpa [skipBlank, hd] using h)
    · simp only [skipBlank, hd] at h
      cases h
      simpa using hd

@[simp] theorem skipBlank_skipBlank (s : List Char) : skipBlank (skipBlank s) = skipBlank s := by
  cases h : skipBlank s with
  | nil => rfl
  | cons c rest => exact skipBlank_cons (skipBlank_eq_cons h) rest

theorem length_skipBlank_le (s : List Char) : (skipBlank s).length ≤ s.length := by
  induction s with
  | nil => exact Nat.le_refl _
  | cons c s ih =>
    rw [skipBlank]
    split
    · exact Nat.le_succ_of_le ih
    · exact Nat.le_refl _

theorem skipBlank_concat {c : Char} (h : isBlank c = false) (s : List Char) :
    skipBlank (s ++ [c]) = skipBlank s ++ [c] := by
  induction s with
  | nil => exact skipBlank_cons h []
  | cons d s ih =>
    rw [List.cons_append, skipBlank, skipBlank]
    split
    · exact ih
    · rfl

/-- Unless nothing is left, what is left begins with a word. -/
theorem trim_eq_nil_of_takeWhile {s : List Char} (h : (trim s).takeWhile (!isBlank ·) = []) : trim s = [] := by
  rw [trim] at h ⊢
  cases hSkip : skipBlank s with
  | nil => rfl
  | cons c rest =>
    have hc : isBlank c = false := skipBlank_eq_cons hSkip
    rw [hSkip, trimEnd, List.reverse_cons, skipBlank_concat hc, List.reverse_append] at h
    simp [hc] at h

/-! ## Letters and digits -/

/-- The white space outside ASCII as spans of code points. -/
def wideBlankSpans : List (Nat × Nat) :=
  [(0x85, 0x85), (0xA0, 0xA0), (0x1680, 0x1680), (0x2000, 0x200A), (0x2028, 0x2029), (0x202F, 0x202F),
    (0x205F, 0x205F), (0x3000, 0x3000)]

/-- A range that has no code point of a span. -/
def CharRange.isApart (r : CharRange) (span : Nat × Nat) : Bool := r.last < span.1 || span.2 < r.first

theorem CharRange.contains_of_isApart {r : CharRange} {span : Nat × Nat} (h : r.isApart span = true) {n : Nat}
    (hn : span.1 ≤ n ∧ n ≤ span.2) : r.contains n = false := by
  simp only [isApart, Bool.or_eq_true, decide_eq_true_eq] at h
  have hOut : ¬(r.first ≤ n ∧ n ≤ r.last) := by omega
  simp only [contains, Bool.and_eq_false_iff, decide_eq_false_iff_not]
  exact Or.inl (by omega)

/-- A written set that has no white space outside ASCII. -/
def CharRanges.isBlankFree (rs : CharRanges) : Bool := rs.all fun r => wideBlankSpans.all r.isApart

theorem CharRanges.contains_of_isBlankFree {rs : CharRanges} (h : rs.isBlankFree = true) {c : Char}
    (hBlank : isBlank c = true) (hWide : ¬c.toNat < 0x80) : rs.contains c = false := by
  obtain ⟨span, hSpan, hc⟩ : ∃ span ∈ wideBlankSpans, span.1 ≤ c.toNat ∧ c.toNat ≤ span.2 := by
    simp only [isBlank, Bool.or_eq_true, Bool.and_eq_true, decide_eq_true_eq] at hBlank
    simp only [wideBlankSpans, List.mem_cons, List.not_mem_nil, or_false, exists_eq_or_imp, exists_eq_left]
    omega
  simp only [contains, List.any_eq_false]
  intro r hr
  rw [isBlankFree, List.all_eq_true] at h
  simp [CharRange.contains_of_isApart (List.all_eq_true.1 (h r hr) span hSpan) hc]

theorem CharRanges.ofText_ofList (s : List Char) :
    CharRanges.ofText (String.ofList s) = (words [] s).map CharRange.ofText := by
  rw [ofText, String.toList_ofList]

set_option maxRecDepth 100000 in
theorem alphabeticRanges_isBlankFree : alphabeticRanges.isBlankFree = true := by
  rw [alphabeticRanges, CharRanges.ofText_ofList]
  decide +kernel

set_option maxRecDepth 100000 in
theorem numericRanges_isBlankFree : numericRanges.isBlankFree = true := by
  rw [numericRanges, CharRanges.ofText_ofList]
  decide +kernel

/-- The white space of ASCII, as code points. -/
theorem mem_of_isBlank {c : Char} (h : isBlank c = true) (hAscii : c.toNat < 0x80) :
    c.toNat ∈ [0x09, 0x0A, 0x0B, 0x0C, 0x0D, 0x20] := by
  simp only [isBlank, Bool.or_eq_true, Bool.and_eq_true, decide_eq_true_eq] at h
  simp only [List.mem_cons, List.not_mem_nil, or_false]
  omega

theorem isAlphabetic_of_isBlank {c : Char} (h : isBlank c = true) : isAlphabetic c = false := by
  rw [isAlphabetic]
  split
  · rename_i hAscii
    have hAll : ∀ n ∈ [0x09, 0x0A, 0x0B, 0x0C, 0x0D, 0x20], (Char.ofNat n).isAlpha = false := by decide
    have hNone := hAll c.toNat (mem_of_isBlank h hAscii)
    rwa [Char.ofNat_toNat] at hNone
  · rename_i hWide
    exact CharRanges.contains_of_isBlankFree alphabeticRanges_isBlankFree h hWide

theorem isNumeric_of_isBlank {c : Char} (h : isBlank c = true) : isNumeric c = false := by
  rw [isNumeric]
  split
  · rename_i hAscii
    have hAll : ∀ n ∈ [0x09, 0x0A, 0x0B, 0x0C, 0x0D, 0x20], (Char.ofNat n).isDigit = false := by decide
    have hNone := hAll c.toNat (mem_of_isBlank h hAscii)
    rwa [Char.ofNat_toNat] at hNone
  · rename_i hWide
    exact CharRanges.contains_of_isBlankFree numericRanges_isBlankFree h hWide

theorem isAlphanumeric_of_isBlank {c : Char} (h : isBlank c = true) : isAlphanumeric c = false := by
  rw [isAlphanumeric, isAlphabetic_of_isBlank h, isNumeric_of_isBlank h, Bool.or_self]

end TemplateQuery.Text
