import TemplateQuery.Proofs.Query.Binding

/-!
# Reading spelled selectors

The first character of a spelling tells selectors and expressions from whatever else may stand in their place. Each kind
of selector is read back from its spellings, and so is a bracket of several.
-/
namespace TemplateQuery.Query

open Text (isBlank skipBlank isAlphabetic)

variable {functions : FunctionTable}

/-! ## How spellings start -/

/-- How a spelling starts where an operand of some strength is needed: like nothing that could end a list before it, and
like no negation if those bind too weakly. -/
def StartsOperand (strength : Nat) (t : List Char) : Prop :=
  StartsWith (fun c => c ∉ [')', ']', '='] ∧ (3 ≤ strength → c ≠ '!')) t

theorem StartsOperand.weaken {strength needed : Nat} {t : List Char} (h : StartsOperand strength t)
    (hNeeded : needed ≤ strength) : StartsOperand needed t :=
  h.mono fun _ hc => ⟨hc.1, fun hThree => hc.2 (Nat.le_trans hThree hNeeded)⟩

theorem StartsOperand.starts {strength : Nat} {t : List Char} (h : StartsOperand strength t) :
    StartsWith (fun _ => True) t := h.mono fun _ _ => trivial

theorem StartsOperand.ne {strength : Nat} {t : List Char} (h : StartsOperand strength t) {x : Char}
    (hx : x ∈ [')', ']', '=']) : StartsWith (· ≠ x) t := by
  refine h.mono ?_
  rintro c ⟨hSign, -⟩ rfl
  exact hSign hx

theorem starts_of_quoted {s : String} {t : List Char} (ht : t ∈ quoted s) : StartsWith (fun _ => True) t := by
  obtain ⟨quote, t', hQuote, rfl, -⟩ := readString_quoted ht
  refine ⟨quote, t', rfl, ?_, trivial⟩
  rcases hQuote with rfl | rfl <;> decide

theorem isBlank_of_numeral {c : Char} (h : c = '-' ∨ c.isDigit = true) : isBlank c = false := by
  rcases h with rfl | h
  · decide
  · exact isBlank_of_isNameChar (isNameChar_of_isDigit h)

theorem starts_of_sliceSpelling {start stop step : Option Int} {t : List Char} (ht : t ∈ sliceSpelling start stop step) :
    StartsWith (fun _ => True) t := by
  obtain ⟨u, hu, v, hv, rfl⟩ := Language.mem_mul.1 ht
  cases start with
  | none =>
    obtain rfl : u = [] := hu
    obtain ⟨_, rfl, w, -, rfl⟩ := Language.mem_mul.1 hv
    exact ⟨':', w, rfl, by decide, trivial⟩
  | some i =>
    obtain ⟨n, hn, b, -, rfl⟩ := Language.mem_mul.1 hu
    obtain ⟨c, n, rfl, hc⟩ := starts_of_numeral hn
    exact ⟨c, n ++ b ++ v, rfl, isBlank_of_numeral hc, trivial⟩

theorem starts_of_mul {p : Char → Prop} {l m : Language Char} (h : ∀ u ∈ l, StartsWith p u) {t : List Char}
    (ht : t ∈ l * m) : StartsWith p t := by
  obtain ⟨u, hu, v, -, rfl⟩ := Language.mem_mul.1 ht
  exact (h u hu).append v

theorem starts_of_word {p : Char → Prop} {c : Char} {w : List Char} (hBlank : isBlank c = false) (hc : p c) :
    ∀ u ∈ word (c :: w), StartsWith p u := by
  rintro _ rfl
  exact ⟨c, w, rfl, hBlank, hc⟩

theorem starts_of_scalar {value : Json} {t : List Char} (ht : t ∈ scalarSpelling value) : StartsOperand 4 t := by
  have hSigns : ∀ c ∈ "'\"-0123456789tfn".toList, isBlank c = false ∧ c ∉ [')', ']', '='] ∧ c ≠ '!' :=
    forall_mem_of_all (by decide)
  obtain ⟨c, t', rfl, hc⟩ := starts_of_scalarSpelling ht
  obtain ⟨hBlank, hCloser, hNot⟩ := hSigns c hc
  exact ⟨c, t', rfl, hBlank, hCloser, fun _ => hNot⟩

theorem starts_of_literal {value : Json} {t : List Char} (ht : t ∈ literalSpelling value) : StartsOperand 4 t := by
  unfold literalSpelling at ht
  split at ht
  · exact starts_of_mul (starts_of_word (by decide) (by simp)) ht
  · exact starts_of_scalar ht

theorem starts_of_name {name : String} (h : IsWord name) : StartsOperand 4 name.toList := by
  obtain ⟨c, rest, hName, hc⟩ := h.first
  have hBlank : isBlank c = false := isBlank_of_isNameChar (h.chars c (by simp [hName]))
  refine ⟨c, rest, hName, hBlank, ?_, ?_⟩
  · intro hSign
    have hSigns : ∀ c ∈ [')', ']', '='], ¬(isAlphabetic c = true ∨ c = '_') :=
      forall_mem_of_all (by decide)
    exact hSigns c hSign hc
  · rintro - rfl
    exact absurd hc (by decide)

theorem starts_of_atStrength {needed : Nat} {e : Expr} {t : List Char}
    (h : ∀ u ∈ e.spelling, StartsOperand e.strength u) (ht : t ∈ e.atStrength needed e.spelling) :
    StartsOperand needed t := by
  rw [Expr.atStrength] at ht
  split at ht
  · rename_i hNeeded
    exact (h t ht).weaken hNeeded
  · exact starts_of_mul (starts_of_word (by decide) ⟨by decide, fun _ => by decide⟩) ht

theorem starts_of_inside_spelling :
    Hereditary (fun s => s.Everywhere functions.writable → ∀ t ∈ s.inside, StartsWith (fun _ => True) t)
      (fun e => e.Everywhere functions.writable → ∀ t ∈ e.spelling, StartsOperand e.strength t) where
  child _ _ _ ht := starts_of_quoted ht
  index _ _ _ ht := by
    obtain ⟨c, t', rfl, hc⟩ := starts_of_numeral ht
    exact ⟨c, t', rfl, isBlank_of_numeral hc, trivial⟩
  wildcard _ := starts_of_word (by decide) trivial
  descend _ ih h t ht := ih h.2 t ht
  slice _ _ _ _ _ ht := starts_of_sliceSpelling ht
  union selectors ih h t ht := by
    rw [Segment.inside, insides_eq_map] at ht
    have hne : selectors.map Segment.inside ≠ [] := by
      have hTwo := h.1.1.1
      rintro hNil
      simp [List.map_eq_nil_iff.1 hNil] at hTwo
    refine starts_of_commaSeparated hne (fun item hItem u hu => ?_) ht
    obtain ⟨s, hs, rfl⟩ := List.mem_map.1 hItem
    exact ih s hs ((everywhereOn_iff _ _).1 h.2 s hs) u hu
  filter _ _ _ _ ht := starts_of_mul (starts_of_word (by decide) trivial) ht
  literal _ _ _ ht := starts_of_literal ht
  path root _ _ _ _ ht := by
    refine starts_of_mul (starts_of_word ?_ ?_) ht
    · cases root <;> decide
    · cases root <;> simp [Root.mark]
  call _ _ _ h _ ht := starts_of_mul (by rintro _ rfl; exact starts_of_name h.1.2.toIsWord) ht
  not _ _ _ _ ht := starts_of_mul (starts_of_word (by decide) (by simp [Expr.strength])) ht
  and _ _ ihl _ h _ ht := starts_of_mul (fun _ hu => starts_of_atStrength (ihl h.2.1) hu) ht
  or _ _ ihl _ h _ ht := starts_of_mul (fun _ hu => starts_of_atStrength (ihl h.2.1) hu) ht
  compare _ _ _ ihl _ h _ ht := by
    refine starts_of_mul (fun u hu => ?_) ht
    exact (starts_of_atStrength (ihl h.2.1) hu).weaken (by decide : 3 ≤ 4)

/-! ## Selectors -/

/-- Nothing continues the digits of a bound, and no other bound starts. -/
structure EndsBound (rest : List Char) : Prop where
  digit : ∀ c ∈ rest.head?, c.isDigit = false
  bound : ∀ c ∈ (skipBlank rest).head?, ¬(c = '-' ∨ c.isDigit = true)

theorem endsBound_blanks {b : List Char} (hb : b ∈ blanks) {c : Char} (hBlank : isBlank c = false)
    (hName : isNameChar c = false) (s : List Char) : EndsBound (b ++ c :: s) := by
  refine ⟨noDigit_of_noNameChar (startsWithNameChar_blanks hb hName), ?_⟩
  rw [Text.skipBlank_append_cons hb hBlank]
  intro d hd
  obtain rfl : c = d := by simpa using hd
  rintro (rfl | hDigit)
  · exact absurd hName (by decide)
  · rw [isNameChar_of_isDigit hDigit] at hName
    cases hName

theorem Closes.endsBound {rest : List Char} (h : Closes [')', ']', ','] rest) : EndsBound rest := by
  obtain ⟨b, hb, c, hc, r, rfl⟩ := h
  have hSigns : ∀ c ∈ [')', ']', ','], isBlank c = false ∧ isNameChar c = false :=
    forall_mem_of_all (by decide)
  exact endsBound_blanks hb (hSigns c hc).1 (hSigns c hc).2 r

theorem Closes.noColon {rest : List Char} (h : Closes [')', ']', ','] rest) (r : List Char) :
    skipBlank rest ≠ ':' :: r := by
  obtain ⟨b, hb, c, hc, u, rfl⟩ := h
  have hSigns : ∀ c ∈ [')', ']', ','], isBlank c = false ∧ c ≠ ':' :=
    forall_mem_of_all (by decide)
  rw [Text.skipBlank_append_cons hb (hSigns c hc).1]
  intro hColon
  exact (hSigns c hc).2 (List.cons.inj hColon).1

theorem readBound_stopSpelling {bound : Option Int} (hFits : ∀ i ∈ bound, fitsInt64 i = true) {b t rest : List Char}
    (hb : b ∈ blanks) (ht : t ∈ stopSpelling bound) (hRest : EndsBound rest) :
    ∃ rest', readBound (skipBlank (b ++ (t ++ rest))) = .ok (bound, rest') ∧ skipBlank rest' = skipBlank rest := by
  cases bound with
  | some i =>
    have hRead := readInteger_numeral (hFits i rfl) ht hRest.digit
    obtain ⟨c, t, rfl, hc⟩ := starts_of_numeral ht
    rw [List.cons_append] at hRead
    rw [Text.skipBlank_append hb, List.cons_append, Text.skipBlank_cons (isBlank_of_numeral hc)]
    exact ⟨rest, by simp [readBound, hc, hRead], rfl⟩
  | none =>
    obtain rfl : t = [] := ht
    rw [Text.skipBlank_append hb, List.nil_append]
    refine ⟨skipBlank rest, ?_, Text.skipBlank_skipBlank rest⟩
    cases hSkip : skipBlank rest with
    | nil => rfl
    | cons c r =>
      have hc := hRest.bound c (by rw [hSkip]; rfl)
      simp [readBound, hc]

/-- The part after the second bound is missing, or it is a colon and perhaps a bound. -/
theorem mem_stepSpelling {step : Option Int} {v : List Char} (hv : v ∈ stepSpelling step) :
    v = [] ∧ step = none ∨
      ∃ b ∈ blanks, ∃ b' ∈ blanks, ∃ t ∈ stopSpelling step, v = b ++ ':' :: (b' ++ t) := by
  cases step with
  | some i =>
    simp only [stepSpelling, Language.mem_mul, mem_word] at hv
    obtain ⟨b, hb, _, ⟨_, rfl, _, ⟨b', hb', t, ht, rfl⟩, rfl⟩, rfl⟩ := hv
    exact Or.inr ⟨b, hb, b', hb', t, ht, rfl⟩
  | none =>
    simp only [stepSpelling, Language.mem_add, Language.mem_one, Language.mem_mul, mem_word] at hv
    rcases hv with rfl | ⟨b, hb, _, rfl, rfl⟩
    · exact Or.inl ⟨rfl, rfl⟩
    · exact Or.inr ⟨b, hb, [], nil_mem_blanks, [], rfl, rfl⟩

theorem readSlice_spelled (start : Option Int) {stop step : Option Int} (hStop : ∀ i ∈ stop, fitsInt64 i = true)
    (hStep : ∀ i ∈ step, fitsInt64 i = true) {b u v rest : List Char} (hb : b ∈ blanks) (hu : u ∈ stopSpelling stop)
    (hv : v ∈ stepSpelling step) (hRest : Closes [')', ']', ','] rest) :
    ∃ rest', readSlice start (b ++ (u ++ (v ++ rest))) = .ok (.slice start stop step, rest') ∧
      skipBlank rest' = skipBlank rest := by
  rcases mem_stepSpelling hv with ⟨rfl, rfl⟩ | ⟨c, hc, c', hc', t, ht, rfl⟩
  · obtain ⟨s₁, hRead, hs₁⟩ := readBound_stopSpelling hStop hb hu hRest.endsBound
    refine ⟨skipBlank s₁, ?_, by rw [Text.skipBlank_skipBlank, hs₁]⟩
    simp only [readSlice, List.nil_append, hRead, ok_bind]
    split
    · rename_i r hColon
      exact absurd (hs₁ ▸ hColon) (hRest.noColon r)
    · rfl
  · simp only [List.append_assoc, List.cons_append]
    have hEnds : EndsBound (c ++ ':' :: (c' ++ (t ++ rest))) := endsBound_blanks hc (by decide) (by decide) _
    obtain ⟨s₁, hRead, hs₁⟩ := readBound_stopSpelling hStop hb hu hEnds
    rw [Text.skipBlank_append_cons hc (by decide)] at hs₁
    obtain ⟨s₂, hReadStep, hs₂⟩ := readBound_stopSpelling hStep hc' ht hRest.endsBound
    exact ⟨s₂, by simp [readSlice, hRead, hs₁, hReadStep], hs₂⟩

section Selectors

variable {expr : Reading Expr}

theorem reads_child {name : String} {t : List Char} (ht : t ∈ quoted name) :
    Reads (readSelector expr) t (.child name) (Closes [')', ']', ',']) := by
  intro s rest hs hRest
  obtain ⟨quote, t, hQuote, rfl, hRead⟩ := readString_quoted ht
  rw [List.cons_append] at hs
  refine ⟨rest, ?_, rfl⟩
  rcases hQuote with rfl | rfl <;> simp [readSelector, hs, hRead]

/-- A number before a colon starts a slice, and otherwise it is an index. -/
theorem readSelector_numeral {i : Int} (hFits : fitsInt64 i = true) {s t rest : List Char} (ht : t ∈ numeral i)
    (hs : skipBlank s = t ++ rest) (hRest : ∀ c ∈ rest.head?, c.isDigit = false) :
    readSelector expr s = match skipBlank rest with
      | ':' :: rest => readSlice (some i) rest
      | rest => .ok (.index i, rest) := by
  have hRead := readInteger_numeral hFits ht hRest
  obtain ⟨c, t, rfl, hc⟩ := starts_of_numeral ht
  have hSigns : ∀ c ∈ ['*', '\'', '"', '?', ':'], ¬(c = '-' ∨ c.isDigit = true) :=
    forall_mem_of_all (by decide)
  have hc' : c ∉ ['*', '\'', '"', '?', ':'] := fun hSign => hSigns c hSign hc
  simp only [List.mem_cons, List.not_mem_nil, or_false, not_or] at hc'
  rw [List.cons_append] at hs hRead
  simp only [readSelector, hs, hc', hc, hRead, if_false, if_true, or_self, ok_bind]
  rfl

theorem reads_index {i : Int} (hFits : fitsInt64 i = true) {t : List Char} (ht : t ∈ numeral i) :
    Reads (readSelector expr) t (.index i) (Closes [')', ']', ',']) := by
  intro s rest hs hRest
  refine ⟨skipBlank rest, ?_, Text.skipBlank_skipBlank rest⟩
  rw [readSelector_numeral hFits ht hs hRest.endsBound.digit]
  split
  · rename_i r hColon
    exact absurd hColon (hRest.noColon r)
  · rfl

theorem reads_wildcard : Reads (readSelector expr) ['*'] .wildcard (Closes [')', ']', ',']) := by
  intro s rest hs hRest
  exact ⟨rest, by simp [readSelector, hs], rfl⟩

theorem reads_slice {start stop step : Option Int} (hFits : (Segment.slice start stop step).Fits) {t : List Char}
    (ht : t ∈ sliceSpelling start stop step) :
    Reads (readSelector expr) t (.slice start stop step) (Closes [')', ']', ',']) := by
  intro s rest hs hRest
  simp only [Segment.Fits, List.forall_mem_cons, List.not_mem_nil, false_imp_iff, implies_true, and_true] at hFits
  simp only [sliceSpelling, Language.mem_mul, mem_word] at ht
  obtain ⟨w, hw, _, ⟨_, rfl, _, ⟨b, hb, _, ⟨u, hu, v, hv, rfl⟩, rfl⟩, rfl⟩, rfl⟩ := ht
  simp only [List.append_assoc, List.cons_append, List.nil_append] at hs
  obtain ⟨rest', hRead, hLeft⟩ := readSlice_spelled start hFits.2.1 hFits.2.2 hb hu hv hRest
  refine ⟨rest', ?_, hLeft⟩
  cases start with
  | none =>
    obtain rfl : w = [] := hw
    simp [readSelector, hs, hRead]
  | some i =>
    obtain ⟨n, hn, b', hb', rfl⟩ := Language.mem_mul.1 hw
    rw [List.append_assoc] at hs
    have hEnds := endsBound_blanks hb' (c := ':') (by decide) (by decide) (b ++ (u ++ (v ++ rest)))
    rw [readSelector_numeral (hFits.1 i rfl) hn hs hEnds.digit]
    rw [Text.skipBlank_append_cons hb' (by decide)]
    exact hRead

theorem reads_filter {test : Expr} {b t : List Char} (hb : b ∈ blanks) (hStart : StartsWith (fun _ => True) t)
    (h : Reads expr t test EndsDisjunction) :
    Reads (readSelector expr) ('?' :: (b ++ t)) (.filter test) (Closes [')', ']', ',']) := by
  intro s rest hs hRest
  rw [List.cons_append, List.append_assoc] at hs
  obtain ⟨rest', hRead, hLeft⟩ := h _ rest (hStart.skipBlank_append hb rest) hRest.endsDisjunction
  exact ⟨rest', by simp [readSelector, hs, hRead], hLeft⟩

/-- What a bracket stands for. -/
def joined : List Segment → Segment
  | [selector] => selector
  | selectors => .union selectors

theorem joined_of_two {selectors : List Segment} (h : 2 ≤ selectors.length) : joined selectors = .union selectors := by
  rcases selectors with _ | ⟨x, _ | ⟨y, rest⟩⟩
  · simp at h
  · simp at h
  · rfl

/-- A bracket is read back if the selectors in it are. -/
theorem readBracket_spelled {selectors : List Segment} (hne : selectors ≠ []) {t : List Char}
    (ht : t ∈ commaSeparated (selectors.map Segment.inside))
    (hStarts : ∀ x ∈ selectors, ∀ u ∈ x.inside, StartsWith (fun _ => True) u)
    (hSelectors : ∀ x ∈ selectors, ∀ u ∈ x.inside, u.length ≤ t.length →
      Reads (readSelector expr) u x (Closes [')', ']', ',']))
    {s b r : List Char} (hb : b ∈ blanks) (hs : skipBlank s = t ++ (b ++ ']' :: r)) :
    readBracket expr s = .ok (joined selectors, r) := by
  obtain ⟨rest, hRead, hClose⟩ := commaList_closed hne ht hStarts hSelectors (by decide) hb hs
  simp only [readBracket, hRead, ok_bind, hClose]
  cases selectors with
  | nil => exact absurd rfl hne
  | cons x xs => cases xs <;> rfl

end Selectors

end TemplateQuery.Query
