import TemplateQuery.Proofs.Query.Outlook
import TemplateQuery.Query.Grammar

/-!
# Unfinished words

The outlook of each reader of a word. A name or a number at the end of a text may go on, a string without its closing quote
is completed by that, and where no name or literal has begun there is one to begin. A point after a number is the one
sign that stops a reader and is made a part of the value by more text.
-/
namespace TemplateQuery.Query

open Text (isBlank skipBlank)

variable {stops : List Char}

/-! ## Names and strings -/

theorem outlook_readName (s : List Char) : Outlook stops (fun _ => readName) s := by
  refine Outlook.of_skips (fun _ u => by simp [readName]) ?_ fun c u hBlank _ => ?_
  · refine .ended (fun _ _ => ⟨_, rfl, rfl⟩) ['a'] ⟨"a", fun _ rest _ hRest => ⟨rest, ?_, rfl⟩⟩
    exact readName_append (List.cons_ne_nil 'a' []) (forall_mem_of_all (by decide)) (hRest.noName itemClosers_noName)
  · cases hc : isNameChar c with
    | false =>
      refine Outlook.of_error (.expected .identifier (c :: u)) (fun _ => ?_) rfl
      simp [readName, Text.skipBlank_cons hBlank, hc]
    | true =>
      obtain ⟨w, r, rfl, hw, hr⟩ := exists_run isNameChar u
      refine Outlook.of_run (w := c :: w) (x := String.ofList (c :: w)) (not_mem_of_isNameChar itemClosers_noName)
        (fun _ rest hRest => ?_) hr
      exact readName_append (List.cons_ne_nil c w) (List.forall_mem_cons.2 ⟨hc, hw⟩) (startsWithNameChar_eq_false.2 hRest)

theorem unicodeChar_isEnd {a b c d : Char} {fault : Fault} (h : unicodeChar a b c d = .error fault) :
    fault.isEnd = false := by
  unfold unicodeChar at h
  split at h
  · dsimp only at h
    split at h <;> cases h
    rfl
  · cases h
    rfl

theorem readQuoted_quote (quote : Char) (s : List Char) : readQuoted quote (quote :: s) = .ok ([], s) := by
  unfold readQuoted
  simp

theorem readQuoted_short {quote letter c : Char} (hQuote : quote ≠ '\\') (hLetter : letter ≠ 'u')
    (hEscape : shortEscape? letter = some c) (s : List Char) :
    readQuoted quote ('\\' :: letter :: s) = do
      let (xs, rest) ← readQuoted quote s
      return (c :: xs, rest) := by
  rw [readQuoted.eq_def]
  simp [hQuote.symm, hLetter, hEscape]

theorem readQuoted_plain {quote c : Char} (hQuote : c ≠ quote) (hEscape : c ≠ '\\') (s : List Char) :
    readQuoted quote (c :: s) = do
      let (xs, rest) ← readQuoted quote s
      return (c :: xs, rest) := by
  rw [readQuoted.eq_def]
  simp [hQuote, hEscape]

theorem outlook_readQuoted {quote : Char} (hQuote : quote ≠ '\\') (s : List Char) :
    Outlook stops (fun _ => readQuoted quote) s := by
  fun_induction readQuoted quote s with
  | case1 =>
    refine .ended (fun _ _ => ⟨.expected (.closingQuote quote) [], by simp [readQuoted], rfl⟩) [quote]
      ⟨[], fun _ rest _ _ => ⟨rest, readQuoted_quote quote rest, rfl⟩⟩
  | case2 rest => exact .settled [] rest (by simp) fun _ more _ => readQuoted_quote quote (rest ++ more)
  | case3 => exact Outlook.of_error (.malformed .escape) (fun _ => by simp [readQuoted, hQuote.symm]) rfl
  | case4 h₁ h₂ h₃ h₄ rest _ ih =>
    cases hChar : unicodeChar h₁ h₂ h₃ h₄ with
    | error fault =>
      refine Outlook.of_error fault (fun _ => ?_) (unicodeChar_isEnd hChar)
      simp [readQuoted, hQuote.symm, hChar]
    | ok x =>
      refine (ih.map (x :: ·)).past (w := ['\\', 'u', h₁, h₂, h₃, h₄]) fun room more => ?_
      simp [readQuoted, hQuote.symm, hChar]
  | case5 tail =>
    refine Outlook.of_error (.malformed .unicodeEscape) (fun _ => ?_) rfl
    simp [readQuoted, hQuote.symm]
  | case6 e rest _ _ hEscape =>
    refine Outlook.of_error (.malformed .escape) (fun _ => ?_) rfl
    simp [readQuoted, hQuote.symm, hEscape]
  | case7 e rest _ he x hEscape _ ih =>
    refine (ih.map (x :: ·)).past (w := ['\\', e]) fun room more => ?_
    exact readQuoted_short hQuote he hEscape (rest ++ more)
  | case8 c rest hc hEscape ih =>
    refine (ih.map (c :: ·)).past (w := [c]) fun room more => ?_
    exact readQuoted_plain hc hEscape (rest ++ more)

theorem outlook_readString {quote : Char} (hQuote : quote = '\'' ∨ quote = '"') (s : List Char) :
    Outlook stops (fun _ => readString quote) s := by
  have hEscape : quote ≠ '\\' := by
    rcases hQuote with rfl | rfl <;> decide
  exact (outlook_readQuoted hEscape s).map String.ofList

/-! ## Numbers -/

theorem itemClosers_of_isDigit (c : Char) (h : c.isDigit = true) : isBlank c = false ∧ c ∉ itemClosers :=
  not_mem_of_isNameChar itemClosers_noName c (isNameChar_of_isDigit h)

theorem readDigits_isEnd {s : List Char} {fault : Fault} (h : readDigits s = .error fault) : fault.isEnd = false := by
  unfold readDigits at h
  split at h
  split at h <;> cases h
  rfl

theorem outlook_readDigits (s : List Char) : Outlook stops (fun _ => readDigits) s := by
  -- The digits end where their run does, after the sign if there is one.
  obtain ⟨negative, u, hs, hSign⟩ : ∃ negative u, s = (if negative then ['-'] else []) ++ u ∧
      (negative = false → u.head? ≠ some '-') := by
    cases s with
    | nil => exact ⟨false, [], rfl, by simp⟩
    | cons c s =>
      by_cases hc : c = '-'
      · exact ⟨true, s, by simp [hc], by simp⟩
      · exact ⟨false, c :: s, rfl, by simpa using hc⟩
  obtain ⟨w, r, rfl, hw, hr⟩ := exists_run Char.isDigit u
  by_cases hne : w = []
  · subst hne
    refine Outlook.of_error (.malformed .missingNumber) (fun _ => ?_) rfl
    subst hs
    have hTake : r.takeWhile Char.isDigit = [] := takeWhile_append_stop (List.forall_mem_nil _) hr
    cases negative with
    | true => simp [readDigits, hTake]
    | false =>
      have hHead := hSign rfl
      cases r with
      | nil => rfl
      | cons c r =>
        have hc : c ≠ '-' := by simpa using hHead
        simp [readDigits, hTake, hc]
  · have hDecimal : w ∈ decimal (Text.decimalValue w) := ⟨hne, hw, rfl⟩
    have hRead (rest : List Char) (hRest : ∀ c ∈ rest.head?, c.isDigit = false) :
        readDigits ((if negative then ['-'] else []) ++ w ++ rest) = .ok (⟨negative, w⟩, rest) := by
      cases negative with
      | true => simpa using (readDigits_decimal hDecimal hRest).2
      | false => simpa using (readDigits_decimal hDecimal hRest).1
    rw [hs, ← List.append_assoc]
    exact Outlook.of_run itemClosers_of_isDigit (fun _ => hRead) hr

theorem integer_isEnd (d : Digits) (fault : Fault) (h : d.integer = .error fault) : fault.isEnd = false := by
  unfold Digits.integer at h
  split at h <;> cases h
  rfl

theorem outlook_readInteger (s : List Char) : Outlook stops (fun _ => readInteger) s :=
  (outlook_readDigits s).check Digits.integer (fun _ _ => readDigits_isEnd) integer_isEnd

theorem EndsIn.noPoint {rest : List Char} (h : EndsIn itemClosers rest) : rest.head? ≠ some '.' := by
  intro hHead
  have hCloser := h.stops (p := (· == '.')) (by simp [itemClosers, isBlank]) '.' hHead
  simp at hCloser

/-- A point with nothing after it stops the reader of a number, since a digit may come next. -/
theorem outlook_takeFraction (s : List Char) : Outlook ['.'] (fun _ s => .ok (takeFraction s)) s := by
  by_cases hPoint : s.head? = some '.'
  · obtain ⟨u, rfl⟩ : ∃ u, s = '.' :: u := List.head?_eq_some_iff.1 hPoint
    obtain ⟨w, r, rfl, hw, hr⟩ := exists_run Char.isDigit u
    by_cases hne : w = []
    · subst hne
      cases r with
      | nil => exact .stopped [] fun _ _ => ⟨['.'], '.', [], rfl, rfl, List.mem_singleton.2 rfl⟩
      | cons c r =>
        have hc : c.isDigit = false := hr c rfl
        exact .settled [] ('.' :: c :: r) (by simp) fun _ more _ => by simp [takeFraction, hc]
    · refine Outlook.of_run (w := '.' :: w) (x := w) itemClosers_of_isDigit (fun _ rest hRest => ?_) hr
      obtain ⟨c, w, rfl⟩ := List.exists_cons_of_ne_nil hne
      have hTake := takeWhile_append_stop hw hRest
      have hDrop := dropWhile_append_stop hw hRest
      rw [List.cons_append] at hTake hDrop
      simp [takeFraction, hTake, hDrop]
  · cases s with
    | nil =>
      refine .pending ⟨[], fun _ rest _ hRest => ⟨rest, ?_, rfl⟩⟩
      simp [takeFraction_of_noPoint hRest.noPoint]
    | cons c s =>
      refine .settled [] (c :: s) (Nat.le_refl _) fun _ more _ => ?_
      rw [takeFraction_of_noPoint (by simpa using hPoint)]

theorem takeExponent_signed {mark sign : Char} (hMark : mark = 'e' ∨ mark = 'E') (hSign : sign = '+' ∨ sign = '-')
    (s : List Char) :
    takeExponent (mark :: sign :: s) = (some ⟨[sign], s.takeWhile Char.isDigit⟩, s.dropWhile Char.isDigit) := by
  rcases hSign with rfl | rfl <;> simp [takeExponent, hMark]

theorem takeExponent_unsigned {mark : Char} (hMark : mark = 'e' ∨ mark = 'E') {s : List Char}
    (hSign : ∀ c ∈ s.head?, ¬(c = '+' ∨ c = '-')) :
    takeExponent (mark :: s) = (some ⟨[], s.takeWhile Char.isDigit⟩, s.dropWhile Char.isDigit) := by
  cases s with
  | nil => simp [takeExponent, hMark]
  | cons c s =>
    obtain ⟨hPlus, hMinus⟩ := not_or.1 (hSign c rfl)
    simp [takeExponent, hMark, hPlus, hMinus]

/-- What can come next after the mark of an exponent. -/
def goesOnExponent (c : Char) : Bool := c.isDigit || (c == '+' || c == '-')

theorem itemClosers_of_goesOnExponent (c : Char) (h : goesOnExponent c = true) : isBlank c = false ∧ c ∉ itemClosers := by
  simp only [goesOnExponent, Bool.or_eq_true, beq_iff_eq] at h
  rcases h with h | rfl | rfl
  · exact itemClosers_of_isDigit c h
  · decide
  · decide

theorem outlook_exponent_signed {mark sign : Char} (hMark : mark = 'e' ∨ mark = 'E') (hSign : sign = '+' ∨ sign = '-')
    (s : List Char) : Outlook stops (fun _ s => .ok (takeExponent s)) (mark :: sign :: s) := by
  obtain ⟨w, r, rfl, hw, hr⟩ := exists_run Char.isDigit s
  refine Outlook.of_run (w := mark :: sign :: w) (x := some ⟨[sign], w⟩) itemClosers_of_isDigit (fun _ rest hRest => ?_) hr
  simp [takeExponent_signed hMark hSign, takeWhile_append_stop hw hRest, dropWhile_append_stop hw hRest]

/-- Neither digits nor a sign have come yet, and either may come next. -/
theorem outlook_exponent_mark {mark : Char} (hMark : mark = 'e' ∨ mark = 'E') {s : List Char}
    (hs : ∀ c ∈ s.head?, goesOnExponent c = false) :
    Outlook stops (fun _ s => .ok (takeExponent s)) (mark :: s) := by
  refine Outlook.of_run (w := [mark]) (x := some ⟨[], []⟩) itemClosers_of_goesOnExponent (fun _ rest hRest => ?_) hs
  have hDigit : ∀ c ∈ rest.head?, c.isDigit = false := by
    intro c hc
    have hNone := hRest c hc
    simp only [goesOnExponent, Bool.or_eq_false_iff] at hNone
    exact hNone.1
  have hSign : ∀ c ∈ rest.head?, ¬(c = '+' ∨ c = '-') := by
    intro c hc
    simpa [goesOnExponent, hDigit c hc] using hRest c hc
  have hTake : rest.takeWhile Char.isDigit = [] := takeWhile_append_stop (List.forall_mem_nil _) hDigit
  have hDrop : rest.dropWhile Char.isDigit = rest := dropWhile_append_stop (List.forall_mem_nil _) hDigit
  rw [List.singleton_append, takeExponent_unsigned hMark hSign, hTake, hDrop]

theorem outlook_exponent_unsigned {mark : Char} (hMark : mark = 'e' ∨ mark = 'E') {s : List Char}
    (hSign : ∀ c ∈ s.head?, ¬(c = '+' ∨ c = '-')) :
    Outlook stops (fun _ s => .ok (takeExponent s)) (mark :: s) := by
  obtain ⟨w, r, rfl, hw, hr⟩ := exists_run Char.isDigit s
  cases w with
  | nil =>
    refine outlook_exponent_mark hMark fun c hc => ?_
    simpa [goesOnExponent, hr c hc] using hSign c hc
  | cons d w =>
    refine Outlook.of_run (w := mark :: d :: w) (x := some ⟨[], d :: w⟩) itemClosers_of_isDigit (fun _ rest hRest => ?_) hr
    have hTake := takeWhile_append_stop hw hRest
    have hDrop := dropWhile_append_stop hw hRest
    rw [List.cons_append] at hTake hDrop
    rw [List.cons_append, List.cons_append, takeExponent_unsigned hMark (by simpa using hSign), hTake, hDrop]

theorem outlook_takeExponent (s : List Char) : Outlook stops (fun _ s => .ok (takeExponent s)) s := by
  cases s with
  | nil =>
    refine .pending ⟨none, fun _ rest _ hRest => ⟨rest, ?_, rfl⟩⟩
    simp [takeExponent_of_noNameChar (hRest.noName itemClosers_noName)]
  | cons mark u =>
    by_cases hMark : mark = 'e' ∨ mark = 'E'
    · by_cases hSign : ∃ sign v, u = sign :: v ∧ (sign = '+' ∨ sign = '-')
      · obtain ⟨sign, v, rfl, hSign⟩ := hSign
        exact outlook_exponent_signed hMark hSign v
      · refine outlook_exponent_unsigned hMark fun c hc hSigns => ?_
        obtain ⟨v, hu⟩ := List.head?_eq_some_iff.1 hc
        exact hSign ⟨c, v, hu, hSigns⟩
    · refine .settled none (mark :: u) (Nat.le_refl _) fun _ more _ => ?_
      simp [takeExponent, hMark]

theorem numberOf_isEnd (d : Digits) (fraction : List Char) (exponent : Option ExponentText) (fault : Fault)
    (h : numberOf d fraction exponent = .error fault) : fault.isEnd = false := by
  unfold numberOf at h
  split at h
  · cases hInteger : d.integer with
    | error fault' =>
      rw [hInteger] at h
      cases h
      exact integer_isEnd d _ hInteger
    | ok i =>
      rw [hInteger] at h
      cases h
  · dsimp only at h
    split at h <;> cases h
    rfl

def fractionAfter (_ : Room) (d : Digits) : Reading (Digits × List Char) := fun s =>
  .ok ((d, (takeFraction s).1), (takeFraction s).2)

def exponentAfter (_ : Room) (parts : Digits × List Char) : Reading ((Digits × List Char) × Option ExponentText) :=
  fun s => .ok ((parts, (takeExponent s).1), (takeExponent s).2)

theorem idle_fractionAfter : Idle [] fractionAfter := by
  intro d
  refine ⟨(d, []), fun _ r hr => ⟨r, ?_, rfl⟩⟩
  rw [List.append_nil] at hr
  simp [fractionAfter, takeFraction_of_noPoint hr.noPoint]

theorem idle_exponentAfter : Idle ['.'] exponentAfter := by
  intro parts
  refine ⟨(parts, none), fun _ r hr => ⟨r, ?_, rfl⟩⟩
  simp [exponentAfter, takeExponent_of_noNameChar (hr.noName (forall_mem_of_all (by decide)))]

/-- A number is read part by part, and only then it is known whether it has a value. -/
theorem outlook_readNumber (s : List Char) : Outlook ['.'] (fun _ => readNumber) s := by
  have hFraction : Outlook ['.'] (both (fun _ => readDigits) fractionAfter) s := by
    refine (outlook_readDigits s).both idle_fractionAfter (List.nil_subset _) fun d r _ _ _ _ => ?_
    exact (outlook_takeFraction r).map fun fraction => (d, fraction)
  have hExponent : Outlook ['.'] (both (both (fun _ => readDigits) fractionAfter) exponentAfter) s := by
    refine hFraction.both idle_exponentAfter (List.Subset.refl _) fun parts r _ _ _ _ => ?_
    exact (outlook_takeExponent r).map fun exponent => (parts, exponent)
  have hNever (room : Room) (fault : Fault)
      (h : both (both (fun _ => readDigits) fractionAfter) exponentAfter room s = .error fault) : fault.isEnd = false := by
    simp only [both, fractionAfter, exponentAfter] at h
    cases hDigits : readDigits s with
    | error =>
      rw [hDigits] at h
      cases h
      exact readDigits_isEnd hDigits
    | ok =>
      rw [hDigits] at h
      cases h
  have hNumber := hExponent.check (fun x => numberOf x.1.1 x.1.2 x.2) hNever fun _ => numberOf_isEnd _ _ _
  refine hNumber.past (w := []) fun room t => ?_
  simp only [List.nil_append, readNumber, both, fractionAfter, exponentAfter]
  cases readDigits (s ++ t) with
  | error fault => rfl
  | ok parts =>
    obtain ⟨d, r⟩ := parts
    cases hNumber : numberOf d (takeFraction r).1 (takeExponent (takeFraction r).2).1 <;> simp [hNumber]

/-! ## Literals -/

/-- The constants that are written as words. -/
def constants : List (String × Json) := [("true", .bool true), ("false", .bool false), ("null", .null)]

theorem readLiteral_constant {word : String} {value : Json} (h : (word, value) ∈ constants) {rest : List Char}
    (hRest : startsWithNameChar rest = false) : readLiteral (word.toList ++ rest) = .ok (value, rest) := by
  simp only [constants, List.mem_cons, List.not_mem_nil, or_false, Prod.mk.injEq] at h
  rcases h with ⟨rfl, rfl⟩ | ⟨rfl, rfl⟩ | ⟨rfl, rfl⟩ <;> simp [readLiteral, afterKeyword?, hRest]

theorem outlook_constant {word : String} {value : Json} (h : (word, value) ∈ constants) {rest : List Char}
    (hRest : startsWithNameChar rest = false) : Outlook stops (fun _ => readLiteral) (word.toList ++ rest) := by
  refine Outlook.of_run (x := value) (not_mem_of_isNameChar itemClosers_noName) (fun _ rest hRest => ?_)
    (startsWithNameChar_eq_false.1 hRest)
  exact readLiteral_constant h (startsWithNameChar_eq_false.2 hRest)

theorem outlook_readLiteral (c : Char) (u : List Char) : Outlook ['.'] (fun _ => readLiteral) (c :: u) := by
  by_cases hQuote : c = '\'' ∨ c = '"'
  · refine ((outlook_readString hQuote u).map Json.string).past (w := [c]) fun room t => ?_
    simp [readLiteral, hQuote]
  · by_cases hNumber : c = '-' ∨ c.isDigit = true
    · refine ((outlook_readNumber (c :: u)).map Json.number).past (w := []) fun room t => ?_
      simp [readLiteral, hQuote, hNumber]
    · by_cases hConstant : ∃ word value rest, (word, value) ∈ constants ∧ afterKeyword? word.toList (c :: u) = some rest
      · obtain ⟨word, value, rest, hMem, hWord⟩ := hConstant
        obtain ⟨hText, hRest⟩ := eq_append_of_afterKeyword? hWord
        rw [hText]
        exact outlook_constant hMem hRest
      · have hNone (word : String) (value : Json) (hMem : (word, value) ∈ constants) :
            afterKeyword? word.toList (c :: u) = none := by
          rw [Option.eq_none_iff_forall_not_mem]
          exact fun rest hWord => hConstant ⟨word, value, rest, hMem, hWord⟩
        refine Outlook.of_error (.expected .literal (c :: u)) (fun _ => ?_) rfl
        have hTrue := hNone "true" (.bool true) (by simp [constants])
        have hFalse := hNone "false" (.bool false) (by simp [constants])
        have hNull := hNone "null" .null (by simp [constants])
        simp only [readLiteral, if_neg hQuote, if_neg hNumber, hTrue, hFalse, hNull]

/-- Where no literal has begun, a string is one. -/
theorem outlook_literal (s : List Char) : Outlook ['.'] (fun _ s => readLiteral (skipBlank s)) s := by
  refine Outlook.of_skips (fun _ u => by simp) ?_ fun c u hBlank _ => ?_
  · refine .ended (fun _ _ => ⟨_, rfl, rfl⟩) ['\'', '\''] ⟨.string "", fun _ rest _ _ => ⟨rest, ?_, rfl⟩⟩
    have hSkip : skipBlank ('\'' :: '\'' :: rest) = '\'' :: '\'' :: rest := Text.skipBlank_cons (by decide) _
    simp [hSkip, readLiteral, readString, readQuoted_quote]
  · refine (outlook_readLiteral c u).past (w := []) fun room t => ?_
    rw [List.nil_append, List.cons_append, Text.skipBlank_cons hBlank]

end TemplateQuery.Query
