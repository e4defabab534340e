import TemplateQuery.Proofs.Query.Following

/-!
# Reading spelled operators

The readers of comparisons, negations and chains of operators read back what the reader of their operands reads back,
each up to its own notion of what may follow. One step leads from each level of binding to the next weaker one, so that
an operand can stand wherever no stronger one is needed.
-/
namespace TemplateQuery.Query

open Text (isBlank skipBlank)

/-! ## Operators -/

theorem Comparison.starts_text (op : Comparison) : ∃ c w, op.text = c :: w ∧ isBlank c = false ∧ (c ≠ '.' ∧ c ≠ '[') ∧
    (op.isWord = false → isNameChar c = false) := by
  cases op <;> exact ⟨_, _, rfl, by decide, by decide, by decide⟩

theorem Comparison.mem_blanks_of_mem_around (op : Comparison) {b : List Char} (hb : b ∈ op.around) : b ∈ blanks := by
  rw [Comparison.around] at hb
  split at hb
  · exact hb.1
  · exact hb

/-- What stands between the operands of a comparison ends the left one. -/
theorem endsOperand_comparison {op : Comparison} {b : List Char} (hb : b ∈ op.around) (s : List Char) :
    EndsOperand (b ++ (op.text ++ s)) := by
  obtain ⟨c, w, hText, hBlank, hPath, hName⟩ := op.starts_text
  rw [hText, List.cons_append]
  rw [Comparison.around] at hb
  split at hb
  · refine endsOperand_gap hb ?_
    rw [Text.skipBlank_cons hBlank]
    intro d hd
    obtain rfl : c = d := by simpa using hd
    exact hPath
  · rename_i hWord
    exact endsOperand_blanks hb (hName (by simpa using hWord)) hBlank hPath _

/-- What follows an operator cannot be taken for a part of it: words must not go on, and the signs of one character must
not be taken for the longer ones that start alike. -/
structure Comparison.EndsBefore (op : Comparison) (rest : List Char) : Prop where
  word : op.isWord = true → startsWithNameChar rest = false
  sign : op ∈ [.less, .greater] → rest.head? ≠ some '='

theorem readComparison?_eq_some_iff {s rest : List Char} {op : Comparison} :
    readComparison? s = some (op, rest) ↔ s = op.text ++ rest ∧ op.EndsBefore rest := by
  constructor
  · intro h
    unfold readComparison? at h
    split at h
    -- The signs are tried one after the other, those of two characters first, and then the words.
    case h_1 | h_2 | h_3 | h_4 =>
      cases h
      exact ⟨rfl, by simp [Comparison.isWord], by simp⟩
    case h_5 rest' hOther | h_6 rest' hOther =>
      cases h
      refine ⟨rfl, by simp [Comparison.isWord], fun _ hEqual => ?_⟩
      obtain ⟨after, rfl⟩ := List.head?_eq_some_iff.1 hEqual
      exact hOther after rfl
    case h_7 =>
      split at h
      · rename_i rest' hIn
        cases h
        obtain ⟨rfl, hName⟩ := eq_append_of_afterKeyword? hIn
        exact ⟨rfl, fun _ => hName, by simp⟩
      · simp only [Option.map_eq_some_iff, Prod.mk.injEq] at h
        obtain ⟨rest', hContains, rfl, rfl⟩ := h
        obtain ⟨rfl, hName⟩ := eq_append_of_afterKeyword? hContains
        exact ⟨rfl, fun _ => hName, by simp⟩
  · rintro ⟨rfl, hWord, hSign⟩
    cases op with
    | isIn => simp [Comparison.text, readComparison?, afterKeyword?, hWord rfl]
    | contains => simp [Comparison.text, readComparison?, afterKeyword?, hWord rfl]
    | less =>
      cases rest with
      | nil => rfl
      | cons c rest =>
        have hc : c ≠ '=' := by simpa using hSign (by decide)
        simp [Comparison.text, readComparison?, hc]
    | greater =>
      cases rest with
      | nil => rfl
      | cons c rest =>
        have hc : c ≠ '=' := by simpa using hSign (by decide)
        simp [Comparison.text, readComparison?, hc]
    | _ => simp [Comparison.text, readComparison?]

theorem readComparison?_append {op : Comparison} {b s : List Char} (hb : b ∈ op.around)
    (hs : ∀ c ∈ (b ++ s).head?, c ≠ '=') : readComparison? (op.text ++ (b ++ s)) = some (op, b ++ s) := by
  refine readComparison?_eq_some_iff.2 ⟨rfl, fun hWord => ?_, fun _ hSign => hs '=' hSign rfl⟩
  rw [Comparison.around, if_pos hWord] at hb
  exact startsWithNameChar_gap hb s

/-- A comparison of two spelled operands is read back. -/
theorem reads_compared {primary : Reading Expr} {op : Comparison} {l b b' r : List Char} {left right : Expr}
    (hLeft : Reads primary l left EndsOperand) (hRight : Reads primary r right EndsOperand)
    (hb : b ∈ op.around) (hb' : b' ∈ op.around) (hStart : StartsWith (· ≠ '=') r) :
    Reads (readCompared primary) (l ++ (b ++ (op.text ++ (b' ++ r)))) (.compare left op right) EndsOperand := by
  intro s rest hs hRest
  simp only [List.append_assoc] at hs
  obtain ⟨s₁, hReadLeft, hs₁⟩ := hLeft s _ hs (endsOperand_comparison hb _)
  obtain ⟨c, w, hText, hBlank, -⟩ := op.starts_text
  have hOp : readComparison? (skipBlank s₁) = some (op, b' ++ (r ++ rest)) := by
    have hSkip (u : List Char) : skipBlank (op.text ++ u) = op.text ++ u := by
      rw [hText, List.cons_append, Text.skipBlank_cons hBlank]
    rw [hs₁, Text.skipBlank_append (op.mem_blanks_of_mem_around hb), hSkip]
    exact readComparison?_append hb' (hStart.head?_ne (op.mem_blanks_of_mem_around hb') (by decide) rest)
  have hSkip := hStart.skipBlank_append (op.mem_blanks_of_mem_around hb') rest
  obtain ⟨s₂, hReadRight, hs₂⟩ := hRight _ rest hSkip hRest
  exact ⟨s₂, by simp [readCompared, hReadLeft, hOp, hReadRight], hs₂⟩

/-- An operand that no comparison follows is read back as it is. -/
theorem reads_compared_of_operand {primary : Reading Expr} {t : List Char} {e : Expr}
    (h : Reads primary t e EndsOperand) : Reads (readCompared primary) t e EndsComparison := by
  intro s rest hs hRest
  obtain ⟨rest', hRead, hLeft⟩ := h s rest hs hRest.toEndsOperand
  refine ⟨skipBlank rest', ?_, by rw [Text.skipBlank_skipBlank, hLeft]⟩
  simp [readCompared, hRead, hLeft, hRest.comparison]

/-- The reader of negations takes `t` for `e` if it may take an exclamation mark for each character of the text. -/
def ReadsNegated (primary : Reading Expr) (t : List Char) (e : Expr) : Prop :=
  ∀ more, t.length ≤ more → Reads (readNegated (readCompared primary) more) t e EndsComparison

theorem readsNegated_of_compared {primary : Reading Expr} {t : List Char} {e : Expr}
    (h : Reads (readCompared primary) t e EndsComparison) (hStart : StartsWith (· ≠ '!') t) :
    ReadsNegated primary t e := by
  intro more hMore s rest hs hRest
  obtain ⟨rest', hRead, hLeft⟩ := h s rest hs hRest
  obtain ⟨c, t', rfl, -, hc⟩ := hStart
  refine ⟨rest', ?_, hLeft⟩
  cases more with
  | zero => exact hRead
  | succ more =>
    rw [List.cons_append] at hs
    simpa [readNegated, hs, hc] using hRead

theorem ReadsNegated.not {primary : Reading Expr} {t : List Char} {e : Expr} (h : ReadsNegated primary t e)
    (hStart : StartsWith (· ≠ '=') t) {b : List Char} (hb : b ∈ blanks) :
    ReadsNegated primary ('!' :: (b ++ t)) (.not e) := by
  intro more hMore s rest hs hRest
  simp only [List.length_cons, List.length_append] at hMore
  obtain ⟨more, rfl⟩ : ∃ m, more = m + 1 := ⟨more - 1, by omega⟩
  simp only [List.cons_append, List.append_assoc] at hs
  have hEqual := hStart.head?_ne hb (by decide) rest
  obtain ⟨rest', hRead, hLeft⟩ := h more (by omega) _ rest (hStart.skipBlank_append hb rest) hRest
  refine ⟨rest', ?_, hLeft⟩
  rw [readNegated, hs]
  split
  · rename_i u hu
    simp only [List.cons.injEq, true_and] at hu
    rw [hu] at hEqual
    exact absurd rfl (hEqual '=' rfl)
  · rename_i u hu
    simp only [List.cons.injEq, true_and] at hu
    rw [← hu]
    simp [hRead]
  · rename_i hNone
    exact absurd rfl (hNone _)

/-! ## Chains of operators -/

/-- After the text `t`, the reader of a chain has joined up to `e` and still has enough characters left to join as many
operands as may come. -/
def ReadsChain (sign : Char) (join : Expr → Expr → Expr) (operand : Reading Expr) (follows : List Char → Prop)
    (t : List Char) (e : Expr) : Prop :=
  ∀ s rest, skipBlank s = t ++ rest → follows rest → ∃ more rest',
    readJoined sign join operand s = readChain sign join operand more e rest' ∧ skipBlank rest' = skipBlank rest ∧
      (skipBlank rest).length ≤ more

section Chains

variable {sign : Char} {join : Expr → Expr → Expr} {operand : Reading Expr} {follows : List Char → Prop}

theorem readsChain_of_operand {t : List Char} {e : Expr} (h : Reads operand t e follows) :
    ReadsChain sign join operand follows t e := by
  intro s rest hs hRest
  obtain ⟨rest', hRead, hLeft⟩ := h s rest hs hRest
  refine ⟨rest'.length, rest', by simp [readJoined, hRead], hLeft, ?_⟩
  rw [← hLeft]
  exact Text.length_skipBlank_le rest'

/-- One more operand joins the chain to the left. -/
theorem ReadsChain.snoc {l r b b' : List Char} {left right : Expr}
    (hLeft : ReadsChain sign join operand follows l left) (hRight : Reads operand r right follows)
    (hSign : isBlank sign = false) (hb : b ∈ blanks) (hb' : b' ∈ blanks)
    (hFollows : ∀ u, follows (b ++ sign :: sign :: u)) (hStart : StartsWith (fun _ => True) r) :
    ReadsChain sign join operand follows (l ++ (b ++ sign :: sign :: (b' ++ r))) (join left right) := by
  intro s rest hs hRest
  simp only [List.append_assoc, List.cons_append] at hs
  obtain ⟨more, s₁, hRead, hs₁, hMore⟩ := hLeft s _ hs (hFollows _)
  rw [Text.skipBlank_append_cons hb hSign] at hs₁ hMore
  simp only [List.length_cons, List.length_append] at hMore
  obtain ⟨more, rfl⟩ : ∃ m, more = m + 1 := ⟨more - 1, by omega⟩
  obtain ⟨s₂, hReadRight, hs₂⟩ := hRight _ rest (hStart.skipBlank_append hb' rest) hRest
  refine ⟨more, s₂, ?_, hs₂, ?_⟩
  · rw [hRead, readChain, hs₁]
    simp [hReadRight]
  · have hLength := Text.length_skipBlank_le rest
    omega

/-- A chain ends where its sign does not follow. -/
theorem ReadsChain.reads {t : List Char} {e : Expr} (h : ReadsChain sign join operand follows t e) :
    Reads (readJoined sign join operand) t e fun rest => follows rest ∧ ∀ r, skipBlank rest ≠ sign :: sign :: r := by
  intro s rest hs ⟨hRest, hEnd⟩
  obtain ⟨more, rest', hRead, hLeft, -⟩ := h s rest hs hRest
  rw [hRead]
  cases more with
  | zero => exact ⟨rest', rfl, hLeft⟩
  | succ more =>
    refine ⟨skipBlank rest', ?_, by rw [Text.skipBlank_skipBlank, hLeft]⟩
    rw [readChain]
    split
    · rename_i c d r hr
      have hNot : ¬(c = sign ∧ d = sign) := by
        rintro ⟨rfl, rfl⟩
        exact hEnd r (hLeft ▸ hr)
      rw [if_neg hNot, hr]
    · rfl

end Chains

/-! ## Strengths -/

def readNegation (primary : Reading Expr) : Reading Expr := fun s => readNegated (readCompared primary) s.length s

def readConjunction (primary : Reading Expr) : Reading Expr := readJoined '&' .and (readNegation primary)

/-- The reader for operators that bind at least as strongly as given takes the text `t` for `e`. -/
def ReadsAt (primary : Reading Expr) : Nat → List Char → Expr → Prop
  | 0, t, e => ReadsChain '|' .or (readConjunction primary) EndsConjunction t e
  | 1, t, e => ReadsChain '&' .and (readNegation primary) EndsComparison t e
  | 2, t, e => ReadsNegated primary t e
  | 3, t, e => Reads (readCompared primary) t e EndsComparison
  | _, t, e => Reads primary t e EndsOperand

section Strengths

variable {primary : Reading Expr} {t : List Char} {e : Expr}

theorem ReadsNegated.reads (h : ReadsNegated primary t e) : Reads (readNegation primary) t e EndsComparison := by
  intro s rest hs hRest
  refine h s.length ?_ s rest hs hRest
  have hLength := Text.length_skipBlank_le s
  rw [hs, List.length_append] at hLength
  omega

theorem ReadsAt.conjunction (h : ReadsAt primary 1 t e) : Reads (readConjunction primary) t e EndsConjunction :=
  (ReadsChain.reads h).mono fun _ hRest => ⟨hRest.toEndsComparison, hRest.conjunction⟩

theorem ReadsAt.disjunction (h : ReadsAt primary 0 t e) : Reads (readDisjunction primary) t e EndsDisjunction :=
  (ReadsChain.reads h).mono fun _ hRest => ⟨hRest.toEndsConjunction, hRest.disjunction⟩

/-- What binds more strongly can stand where less is needed; it must not look like a negation if it is none. -/
theorem ReadsAt.lower {strength : Nat} (h : ReadsAt primary (strength + 1) t e)
    (hStart : StartsWith (fun c => 3 ≤ strength + 1 → c ≠ '!') t) : ReadsAt primary strength t e := by
  match strength with
  | 0 => exact readsChain_of_operand h.conjunction
  | 1 => exact readsChain_of_operand (ReadsNegated.reads h)
  | 2 => exact readsNegated_of_compared h (hStart.mono fun c hc => hc (by omega))
  | 3 => exact reads_compared_of_operand h
  | _ + 4 => exact h

theorem ReadsAt.weaken {strength needed : Nat} (hNeeded : needed ≤ strength) (h : ReadsAt primary strength t e)
    (hStart : StartsWith (fun c => 3 ≤ strength → c ≠ '!') t) : ReadsAt primary needed t e := by
  induction strength with
  | zero =>
    obtain rfl : needed = 0 := by omega
    exact h
  | succ strength ih =>
    rcases Nat.lt_or_eq_of_le hNeeded with hLess | rfl
    · exact ih (by omega) (h.lower hStart) (hStart.mono fun c hc hStrength => hc (by omega))
    · exact h

end Strengths

end TemplateQuery.Query
