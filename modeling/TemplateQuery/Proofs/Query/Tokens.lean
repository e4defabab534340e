import TemplateQuery.Proofs.Query.Spelling
import TemplateQuery.Proofs.Text.Letters

/-!
# Reading spelled words

Strings, numbers, names and literals are read back from any of their spellings. A word ends where the next character
cannot continue it, so each reader comes with what must hold of the first character after the word.
-/
namespace TemplateQuery.Query

open Text (isBlank skipBlank hexDigit? isHexDigit valueInBase decimalValue isAlphabetic)

/-- What holds of each element of an explicit list is checked by evaluation. -/
theorem forall_mem_of_all {α : Type} {p : α → Prop} [DecidablePred p] {l : List α}
    (h : l.all (fun a => decide (p a)) = true) : ∀ a ∈ l, p a := by
  simpa only [List.all_eq_true, decide_eq_true_eq] using h

/-! ## Strings -/

theorem unicodeChar_eq {c h₁ h₂ h₃ h₄ : Char} (hex : ∀ d ∈ [h₁, h₂, h₃, h₄], isHexDigit d = true)
    (value : valueInBase 16 [h₁, h₂, h₃, h₄] = c.toNat) : unicodeChar h₁ h₂ h₃ h₄ = .ok c := by
  simp only [List.forall_mem_cons, List.not_mem_nil, false_imp_iff, implies_true, and_true, isHexDigit,
    Option.isSome_iff_exists] at hex
  obtain ⟨⟨a₁, e₁⟩, ⟨a₂, e₂⟩, ⟨a₃, e₃⟩, ⟨a₄, e₄⟩⟩ := hex
  have hValue : ((a₁ * 16 + a₂) * 16 + a₃) * 16 + a₄ = c.toNat := by
    simpa [valueInBase, e₁, e₂, e₃, e₄] using value
  have hScalar : ¬(0xD800 ≤ c.toNat ∧ c.toNat ≤ 0xDFFF) := by
    have hValid : c.toNat < 0xD800 ∨ 0xDFFF < c.toNat ∧ c.toNat < 0x110000 := c.valid
    omega
  simp only [unicodeChar, e₁, e₂, e₃, e₄, hValue, if_neg hScalar, Char.ofNat_toNat]

theorem shortEscape?_eq {letter c : Char} (h : (letter, c) ∈ shortEscapes) :
    letter ≠ 'u' ∧ shortEscape? letter = some c := by
  have hAll : ∀ pair ∈ shortEscapes, pair.1 ≠ 'u' ∧ shortEscape? pair.1 = some pair.2 :=
    forall_mem_of_all (by decide)
  exact hAll (letter, c) h

/-- One spelled character is read before the others. -/
theorem readQuoted_append {quote c : Char} (hQuote : quote ≠ '\\') {t : List Char} (ht : SpellsChar quote c t)
    {s xs rest : List Char} (hs : readQuoted quote s = .ok (xs, rest)) :
    readQuoted quote (t ++ s) = .ok (c :: xs, rest) := by
  cases ht with
  | plain notQuote notEscape =>
    rw [List.singleton_append]
    unfold readQuoted
    simp [notQuote, notEscape, hs]
  | short letter listed =>
    obtain ⟨hLetter, hEscape⟩ := shortEscape?_eq listed
    simp [readQuoted, hQuote.symm, hLetter, hEscape, hs]
  | codePoint digits four hex value =>
    obtain ⟨h₁, h₂, h₃, h₄, rfl⟩ := List.length_eq_four.1 four
    simp [readQuoted, hQuote.symm, unicodeChar_eq hex value, hs]

theorem readQuoted_encoded {quote : Char} (hQuote : quote ≠ '\\') {s t : List Char} (ht : t ∈ encoded quote s)
    (rest : List Char) : readQuoted quote (t ++ quote :: rest) = .ok (s, rest) := by
  induction s generalizing t with
  | nil =>
    obtain rfl : t = [] := ht
    rw [List.nil_append]
    unfold readQuoted
    simp
  | cons c s ih =>
    obtain ⟨u, hu, v, hv, rfl⟩ := Language.mem_mul.1 ht
    rw [List.append_assoc]
    exact readQuoted_append hQuote hu (ih hv)

theorem readString_quoted {s : String} {t : List Char} (ht : t ∈ quoted s) :
    ∃ quote t', (quote = '\'' ∨ quote = '"') ∧ t = quote :: t' ∧
      ∀ rest, readString quote (t' ++ rest) = .ok (s, rest) := by
  obtain ⟨quote, hQuote, ht⟩ := ht
  simp only [Language.mem_mul, mem_word] at ht
  obtain ⟨_, rfl, _, ⟨u, hu, _, rfl, rfl⟩, rfl⟩ := ht
  refine ⟨quote, u ++ [quote], hQuote, rfl, fun rest => ?_⟩
  have hEscape : quote ≠ '\\' := by
    rcases hQuote with rfl | rfl <;> decide
  rw [readString, List.append_assoc, List.singleton_append, readQuoted_encoded hEscape hu]
  simp

/-! ## Runs of characters -/

/-- Every text starts with a run of characters of a kind, possibly none. -/
theorem exists_run (p : Char → Bool) (s : List Char) :
    ∃ w rest, s = w ++ rest ∧ (∀ c ∈ w, p c = true) ∧ ∀ c ∈ rest.head?, p c = false := by
  induction s with
  | nil => exact ⟨[], [], rfl, List.forall_mem_nil _, by simp⟩
  | cons c s ih =>
    cases hc : p c with
    | false => exact ⟨[], c :: s, rfl, List.forall_mem_nil _, by simpa using hc⟩
    | true =>
      obtain ⟨w, rest, rfl, hw, hRest⟩ := ih
      exact ⟨c :: w, rest, rfl, List.forall_mem_cons.2 ⟨hc, hw⟩, hRest⟩

/-- A run of characters ends where the next character is not one of them. -/
theorem takeWhile_append_stop {p : Char → Bool} {w rest : List Char} (hw : ∀ c ∈ w, p c = true)
    (hRest : ∀ c ∈ rest.head?, p c = false) : (w ++ rest).takeWhile p = w := by
  rw [List.takeWhile_append_of_pos hw]
  cases rest with
  | nil => simp
  | cons c rest => simp [hRest c rfl]

theorem dropWhile_append_stop {p : Char → Bool} {w rest : List Char} (hw : ∀ c ∈ w, p c = true)
    (hRest : ∀ c ∈ rest.head?, p c = false) : (w ++ rest).dropWhile p = rest := by
  rw [List.dropWhile_append_of_pos hw]
  cases rest with
  | nil => simp
  | cons c rest => simp [hRest c rfl]

theorem startsWithNameChar_eq_false {rest : List Char} :
    startsWithNameChar rest = false ↔ ∀ c ∈ rest.head?, isNameChar c = false := by
  cases rest with
  | nil => simp [startsWithNameChar]
  | cons c rest => simp [startsWithNameChar]

/-! ## Numbers -/

theorem isDigit_iff {c : Char} : c.isDigit = true ↔ c ∈ "0123456789".toList := by
  constructor
  · intro h
    simp only [Char.isDigit, Bool.and_eq_true, decide_eq_true_eq, ge_iff_le, UInt32.le_iff_toNat_le] at h
    have hn : ∃ n ∈ List.range' 48 10, c.toNat = n := ⟨c.toNat, List.mem_range'_1.2 ⟨h.1, Nat.lt_succ_of_le h.2⟩, rfl⟩
    have hAll : ∀ n ∈ List.range' 48 10, Char.ofNat n ∈ "0123456789".toList :=
      forall_mem_of_all (by decide)
    obtain ⟨n, hn, e⟩ := hn
    rw [← Char.ofNat_toNat c, e]
    exact hAll n hn
  · have hAll : ∀ c ∈ "0123456789".toList, c.isDigit = true := forall_mem_of_all (by decide)
    exact hAll c

theorem isNameChar_of_isDigit {c : Char} (h : c.isDigit = true) : isNameChar c = true := by
  rw [isDigit_iff] at h
  exact forall_mem_of_all (p := fun c => isNameChar c = true) (by decide) c h

theorem head?_of_all {p : Char → Bool} {w : List Char} (hne : w ≠ []) (hw : ∀ c ∈ w, p c = true) :
    ∃ c w', w = c :: w' ∧ p c = true := by
  cases w with
  | nil => exact absurd rfl hne
  | cons c w => exact ⟨c, w, rfl, hw c (List.mem_cons_self ..)⟩

/-- A spelled number starts with a minus sign or a digit. -/
theorem starts_of_numeral {i : Int} {t : List Char} (ht : t ∈ numeral i) :
    ∃ c t', t = c :: t' ∧ (c = '-' ∨ c.isDigit = true) := by
  rcases ht with ⟨n, -, hne, hDigits, -⟩ | ⟨n, -, ht⟩
  · obtain ⟨c, t', rfl, hc⟩ := head?_of_all hne hDigits
    exact ⟨c, t', rfl, Or.inr hc⟩
  · obtain ⟨_, rfl, u, -, rfl⟩ := Language.mem_mul.1 ht
    exact ⟨'-', u, rfl, Or.inl rfl⟩

theorem readDigits_decimal {n : Nat} {t rest : List Char} (ht : t ∈ decimal n)
    (hRest : ∀ c ∈ rest.head?, c.isDigit = false) :
    readDigits (t ++ rest) = .ok (⟨false, t⟩, rest) ∧ readDigits ('-' :: (t ++ rest)) = .ok (⟨true, t⟩, rest) := by
  obtain ⟨hne, hDigits, -⟩ := ht
  have hTake := takeWhile_append_stop hDigits hRest
  have hDrop := dropWhile_append_stop hDigits hRest
  obtain ⟨c, t', rfl, hc⟩ := head?_of_all hne hDigits
  have hMinus : c ≠ '-' := by
    rintro rfl
    exact absurd hc (by decide)
  rw [List.cons_append] at hTake hDrop
  constructor
  · unfold readDigits
    simp [hMinus, hTake, hDrop]
  · simp [readDigits, hTake, hDrop]

theorem readDigits_numeral {i : Int} {t rest : List Char} (ht : t ∈ numeral i)
    (hRest : ∀ c ∈ rest.head?, c.isDigit = false) :
    ∃ d : Digits, readDigits (t ++ rest) = .ok (d, rest) ∧ d.value = i := by
  rcases ht with ⟨n, rfl, ht⟩ | ⟨n, rfl, ht⟩
  · exact ⟨⟨false, t⟩, (readDigits_decimal ht hRest).1, by simp [Digits.value, ht.2.2]⟩
  · obtain ⟨_, rfl, u, hu, rfl⟩ := Language.mem_mul.1 ht
    exact ⟨⟨true, u⟩, (readDigits_decimal hu hRest).2, by simp [Digits.value, hu.2.2]⟩

theorem readInteger_numeral {i : Int} (hFits : fitsInt64 i = true) {t rest : List Char} (ht : t ∈ numeral i)
    (hRest : ∀ c ∈ rest.head?, c.isDigit = false) : readInteger (t ++ rest) = .ok (i, rest) := by
  obtain ⟨d, hRead, rfl⟩ := readDigits_numeral ht hRest
  simp [readInteger, hRead, Digits.integer, hFits]

theorem noDigit_of_noNameChar {rest : List Char} (h : startsWithNameChar rest = false) :
    ∀ c ∈ rest.head?, c.isDigit = false := by
  rw [startsWithNameChar_eq_false] at h
  intro c hc
  rw [Bool.eq_false_iff]
  intro hDigit
  have hName := h c hc
  rw [isNameChar_of_isDigit hDigit] at hName
  cases hName

theorem takeFraction_of_noPoint {rest : List Char} (h : rest.head? ≠ some '.') : takeFraction rest = ([], rest) := by
  unfold takeFraction
  split
  · exact absurd rfl h
  · rfl

theorem takeExponent_of_noNameChar {rest : List Char} (h : startsWithNameChar rest = false) :
    takeExponent rest = (none, rest) := by
  rw [startsWithNameChar_eq_false] at h
  cases rest with
  | nil => rfl
  | cons c rest =>
    have hc : ¬(c = 'e' ∨ c = 'E') := by
      rintro (rfl | rfl)
      · exact absurd (h 'e' rfl) (by decide)
      · exact absurd (h 'E' rfl) (by decide)
    simp [takeExponent, hc]

/-- A whole number is not taken for the start of a longer number if no point and no letter follows. -/
theorem readNumber_numeral {i : Int} (hFits : fitsInt64 i = true) {t rest : List Char} (ht : t ∈ numeral i)
    (hName : startsWithNameChar rest = false) (hPoint : rest.head? ≠ some '.') :
    readNumber (t ++ rest) = .ok (.int i, rest) := by
  obtain ⟨d, hRead, rfl⟩ := readDigits_numeral ht (noDigit_of_noNameChar hName)
  simp [readNumber, hRead, takeFraction_of_noPoint hPoint, takeExponent_of_noNameChar hName, numberOf, Digits.integer,
    hFits, Except.map]

/-! ## Names and literals -/

theorem isNameChar_of_isBlank {c : Char} (h : isBlank c = true) : isNameChar c = false := by
  have hUnderscore : c ≠ '_' := by
    rintro rfl
    exact absurd h (by decide)
  have hHyphen : c ≠ '-' := by
    rintro rfl
    exact absurd h (by decide)
  simp [isNameChar, Text.isAlphanumeric_of_isBlank h, hUnderscore, hHyphen]

theorem isBlank_of_isNameChar {c : Char} (h : isNameChar c = true) : isBlank c = false := by
  rw [Bool.eq_false_iff]
  intro hBlank
  rw [isNameChar_of_isBlank hBlank] at h
  cases h

theorem readName_append {w rest : List Char} (hne : w ≠ []) (hw : ∀ c ∈ w, isNameChar c = true)
    (hRest : startsWithNameChar rest = false) : readName (w ++ rest) = .ok (String.ofList w, rest) := by
  rw [startsWithNameChar_eq_false] at hRest
  have hTake := takeWhile_append_stop hw hRest
  have hDrop := dropWhile_append_stop hw hRest
  obtain ⟨c, w, rfl, hc⟩ := head?_of_all hne hw
  rw [List.cons_append] at hTake hDrop
  simp [readName, Text.skipBlank_cons (isBlank_of_isNameChar hc), hTake, hDrop]

theorem eq_append_of_afterKeyword? {word s rest : List Char} (h : afterKeyword? word s = some rest) :
    s = word ++ rest ∧ startsWithNameChar rest = false := by
  unfold afterKeyword? at h
  split at h
  · rename_i hWord
    simp only [Bool.and_eq_true, List.isPrefixOf_iff_prefix, Bool.not_eq_true'] at hWord
    obtain ⟨⟨rest', rfl⟩, hRest⟩ := hWord
    simp only [List.drop_left, Option.some.injEq] at h hRest
    subst h
    exact ⟨rfl, hRest⟩
  · cases h

theorem starts_of_scalarSpelling {value : Json} {t : List Char} (ht : t ∈ scalarSpelling value) :
    ∃ c t', t = c :: t' ∧ c ∈ "'\"-0123456789tfn".toList := by
  cases value with
  | null => exact ⟨'n', _, ht, by decide⟩
  | bool b =>
    cases b with
    | true => exact ⟨'t', _, ht, by decide⟩
    | false => exact ⟨'f', _, ht, by decide⟩
  | number n =>
    cases n with
    | int i =>
      obtain ⟨c, t', rfl, hc⟩ := starts_of_numeral ht
      have hDigits : ∀ c ∈ "0123456789".toList, c ∈ "'\"-0123456789tfn".toList :=
        forall_mem_of_all (by decide)
      rcases hc with rfl | hc
      · exact ⟨'-', t', rfl, by decide⟩
      · exact ⟨c, t', rfl, hDigits c (isDigit_iff.1 hc)⟩
    | real x => exact ht.elim
  | string s =>
    obtain ⟨quote, t', hQuote, rfl, -⟩ := readString_quoted ht
    refine ⟨quote, t', rfl, ?_⟩
    rcases hQuote with rfl | rfl <;> decide
  | array items => exact ht.elim
  | object members => exact ht.elim

theorem readLiteral_scalar {value : Json} (hValue : IsScalar value) {t rest : List Char}
    (ht : t ∈ scalarSpelling value) (hName : startsWithNameChar rest = false) (hPoint : rest.head? ≠ some '.') :
    readLiteral (t ++ rest) = .ok (value, rest) := by
  cases value with
  | null =>
    obtain rfl : t = "null".toList := ht
    simp [readLiteral, afterKeyword?, hName]
  | bool b =>
    cases b with
    | true =>
      obtain rfl : t = "true".toList := ht
      simp [readLiteral, afterKeyword?, hName]
    | false =>
      obtain rfl : t = "false".toList := ht
      simp [readLiteral, afterKeyword?, hName]
  | number n =>
    cases n with
    | int i =>
      have hRead := readNumber_numeral hValue ht hName hPoint
      obtain ⟨c, t', rfl, hc⟩ := starts_of_numeral ht
      rw [List.cons_append] at hRead ⊢
      have hQuote : ¬(c = '\'' ∨ c = '"') := by
        rintro (rfl | rfl) <;> exact absurd hc (by decide)
      simp [readLiteral, hQuote, hc, hRead]
    | real x => exact ht.elim
  | string s =>
    obtain ⟨quote, t', hQuote, rfl, hRead⟩ := readString_quoted ht
    simp [readLiteral, hQuote, hRead]
  | array items => exact ht.elim
  | object members => exact ht.elim

end TemplateQuery.Query
