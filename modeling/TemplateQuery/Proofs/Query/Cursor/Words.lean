import TemplateQuery.Proofs.Query.Cursor.Following
import TemplateQuery.Proofs.Query.UnfinishedWords

/-!
# Words at a position

The cursor follows the readers of single characters, names, strings, numbers and literals.
-/
namespace TemplateQuery.Query

open Text (isBlank skipBlank)

variable {α : Type} {text s : List Char} {n : Nat}

/-! ## What is expected -/

theorem toError_expected {start : Nat} {c : Char} {u : List Char} (h : text.drop start = c :: u) (what : Expected) :
    (Fault.expected what (c :: u)).toError text.length = .unexpected start c what := by
  have hLength := congrArg List.length h
  rw [List.length_drop, List.length_cons] at hLength
  rw [Fault.toError, List.length_cons, show text.length - (u.length + 1) = start by omega]

theorem isIn_expected {start : Nat} {c : Char} {u : List Char} (h : text.drop start = c :: u) (hc : isBlank c = false)
    (what : Expected) : (Fault.expected what (c :: u)).IsIn text := by
  constructor
  · rw [← h]
    exact List.drop_suffix start text
  · rintro d ⟨⟩
    exact hc

theorem isIn_ended (what : Expected) : (Fault.expected what []).IsIn text :=
  ⟨List.nil_suffix, fun _ h => by cases h⟩

theorem follows_ended (what : Expected) :
    Follows text s n (Cursor.fail (.ended what) : Cursor α) (.error (.expected what [])) :=
  follows_fail (isIn_ended what) rfl

theorem follows_malformed (cause : Malformation) :
    Follows text s n (Cursor.fail (.malformed cause) : Cursor α) (.error (.malformed cause)) := by
  have hIn : (Fault.malformed cause).IsIn text := trivial
  exact follows_fail hIn rfl

theorem follows_failHere (what : Expected) (h : ∀ c ∈ s.head?, isBlank c = false) :
    Follows text s n (Cursor.failHere what : Cursor α) (.error (.expected what s)) := by
  refine follows_peek.andThen ?_
  cases s with
  | nil => exact follows_ended what
  | cons c s =>
    refine follows_position fun start hStart _ => ?_
    exact follows_fail (isIn_expected hStart (h c rfl) what) (toError_expected hStart what)

theorem isBlank_head_skipBlank (s : List Char) : ∀ c ∈ (skipBlank s).head?, isBlank c = false := by
  intro c hc
  cases hSkip : skipBlank s with
  | nil =>
    rw [hSkip] at hc
    cases hc
  | cons d rest =>
    rw [hSkip] at hc
    cases hc
    exact Text.skipBlank_eq_cons hSkip

theorem follows_expect (c : Char) :
    Follows text s s.length (Cursor.expect c) ((expectChar c s).map fun rest => ((), rest)) := by
  have hLength := Text.length_skipBlank_le s
  have hBlank := isBlank_head_skipBlank s
  refine follows_skip.andThen ?_
  rw [expectChar]
  cases hSkip : skipBlank s with
  | nil => exact follows_position fun _ _ _ => follows_next.andThen (follows_ended (.char c))
  | cons d rest =>
    rw [hSkip, List.length_cons] at hLength
    rw [hSkip] at hBlank
    refine follows_position fun start hStart _ => follows_next.andThen ?_
    by_cases hSame : d = c
    · simp only [List.head?_cons, List.tail_cons, hSame, if_true]
      exact follows_pure () (by omega)
    · simp only [List.head?_cons, List.tail_cons, hSame, if_false]
      exact follows_fail (isIn_expected hStart (hBlank d rfl) (.char c)) (toError_expected hStart (.char c))

/-- What comes after a character that must come next. -/
theorem Follows.afterExpect {c : Char} {next : Unit → Cursor α} {f : List Char → Except Fault (α × List Char)}
    (h : ∀ r, r.length ≤ s.length → Follows text r n (next ()) (f r)) :
    Follows text s n (Cursor.expect c >>= next) (expectChar c s >>= f) := by
  have hBind := (follows_expect c).bind (f := fun p => f p.2) fun _ r hr => h r hr
  rwa [bind_map_eq] at hBind

theorem follows_name : Follows text s s.length Cursor.name (readName s) := by
  refine follows_skip.andThen ((follows_run isNameChar).andThen ?_)
  rw [readName]
  have hShorter := Nat.le_trans (List.dropWhile_sublist isNameChar).length_le (Text.length_skipBlank_le s)
  cases hName : (skipBlank s).takeWhile isNameChar with
  | nil =>
    have hNone : (skipBlank s).dropWhile isNameChar = skipBlank s := by
      have hSplit := List.takeWhile_append_dropWhile (p := isNameChar) (l := skipBlank s)
      rwa [hName] at hSplit
    rw [hNone]
    exact follows_failHere .identifier (isBlank_head_skipBlank s)
  | cons c cs => exact follows_pure _ hShorter

/-! ## Strings -/

/-- A hexadecimal digit of an escape. -/
def readHexDigit : Reading Nat
  | [] => .error (.malformed .unicodeEscape)
  | c :: s =>
    match Text.hexDigit? c with
    | some digit => .ok (digit, s)
    | none => .error (.malformed .unicodeEscape)

def readCodePoint (s : List Char) : Except Fault (Char × List Char) := do
  let (a, s) ← readHexDigit s
  let (b, s) ← readHexDigit s
  let (c, s) ← readHexDigit s
  let (d, s) ← readHexDigit s
  let n := ((a * 16 + b) * 16 + c) * 16 + d
  if 0xD800 ≤ n ∧ n ≤ 0xDFFF then .error (.malformed (.codePoint n)) else .ok (Char.ofNat n, s)

/-- What stands behind the backslash of an escape. -/
def readEscape : Reading Char
  | [] => .error (.malformed .escape)
  | letter :: s =>
    if letter = 'u' then readCodePoint s
    else match shortEscape? letter with
      | some c => .ok (c, s)
      | none => .error (.malformed .escape)

theorem readCodePoint_cons (h₁ h₂ h₃ h₄ : Char) (s : List Char) :
    readCodePoint (h₁ :: h₂ :: h₃ :: h₄ :: s) = (unicodeChar h₁ h₂ h₃ h₄).map fun c => (c, s) := by
  cases e₁ : Text.hexDigit? h₁ <;> cases e₂ : Text.hexDigit? h₂ <;> cases e₃ : Text.hexDigit? h₃ <;>
    cases e₄ : Text.hexDigit? h₄ <;> simp [readCodePoint, readHexDigit, unicodeChar, e₁, e₂, e₃, e₄, Except.map]
  split <;> rfl

theorem readCodePoint_short (h : s.length < 4) : readCodePoint s = .error (.malformed .unicodeEscape) := by
  match s, h with
  | [], _ => rfl
  | [a], _ => cases e₁ : Text.hexDigit? a <;> simp [readCodePoint, readHexDigit, e₁]
  | [a, b], _ =>
    cases e₁ : Text.hexDigit? a <;> cases e₂ : Text.hexDigit? b <;> simp [readCodePoint, readHexDigit, e₁, e₂]
  | [a, b, c], _ =>
    cases e₁ : Text.hexDigit? a <;> cases e₂ : Text.hexDigit? b <;> cases e₃ : Text.hexDigit? c <;>
      simp [readCodePoint, readHexDigit, e₁, e₂, e₃]

/-- An escape between quotes is read before the other characters. -/
theorem readQuoted_escape {quote : Char} (hQuote : '\\' ≠ quote) (s : List Char) :
    readQuoted quote ('\\' :: s) = (do
      let (c, s) ← readEscape s
      let (xs, s) ← readQuoted quote s
      return (c :: xs, s)) := by
  cases s with
  | nil => simp [readQuoted, readEscape, hQuote]
  | cons letter s =>
    by_cases hLetter : letter = 'u'
    · subst hLetter
      rcases s with _ | ⟨h₁, _ | ⟨h₂, _ | ⟨h₃, _ | ⟨h₄, s⟩⟩⟩⟩
      case cons.cons.cons.cons => simp [readQuoted, readEscape, hQuote, readCodePoint_cons, bind_map_eq]
      all_goals simp [readQuoted, readEscape, hQuote, readCodePoint_short]
    · cases hShort : shortEscape? letter <;> simp [readQuoted, readEscape, hQuote, hLetter, hShort]

theorem follows_hexDigit : Follows text s s.length Cursor.hexDigit (readHexDigit s) := by
  refine follows_next.andThen ?_
  cases s with
  | nil => exact follows_malformed .unicodeEscape
  | cons c s =>
    simp only [List.head?_cons, Option.bind_some, List.tail_cons, readHexDigit]
    cases Text.hexDigit? c with
    | none => exact follows_malformed .unicodeEscape
    | some digit => exact follows_pure digit (Nat.le_succ _)

theorem follows_unicodeEscape : Follows text s s.length Cursor.unicodeEscape (readCodePoint s) := by
  refine follows_hexDigit.bind fun a s₁ h₁ => ?_
  refine follows_hexDigit.bind fun b s₂ h₂ => ?_
  refine follows_hexDigit.bind fun c s₃ h₃ => ?_
  refine follows_hexDigit.bind fun d s₄ h₄ => ?_
  dsimp only
  split
  · exact follows_malformed _
  · exact follows_pure _ (by omega)

theorem follows_escape : Follows text s s.length Cursor.escape (readEscape s) := by
  refine follows_next.andThen ?_
  cases s with
  | nil => exact follows_malformed .escape
  | cons letter s =>
    simp only [List.head?_cons, Option.some_inj, Option.bind_some, List.tail_cons, readEscape]
    by_cases hLetter : letter = 'u'
    · simp only [hLetter, if_true]
      exact follows_unicodeEscape.mono (Nat.le_succ _)
    · simp only [hLetter, if_false]
      cases shortEscape? letter with
      | none => exact follows_malformed .escape
      | some c => exact follows_pure c (Nat.le_succ _)

theorem follows_quotedWithin (quote : Char) {more : Nat} (h : s.length ≤ more) :
    Follows text s s.length (Cursor.quotedWithin quote more) (readQuoted quote s) := by
  induction more generalizing s with
  | zero =>
    obtain rfl := List.eq_nil_of_length_eq_zero (Nat.le_zero.1 h)
    exact follows_ended (.closingQuote quote)
  | succ more ih =>
    refine follows_next.andThen ?_
    cases s with
    | nil => exact follows_ended (.closingQuote quote)
    | cons c s =>
      rw [List.length_cons] at h
      simp only [List.head?_cons, List.tail_cons, List.length_cons]
      by_cases hQuote : c = quote
      · subst hQuote
        rw [readQuoted_quote, if_pos rfl]
        exact follows_pure [] (Nat.le_succ _)
      · rw [if_neg hQuote]
        by_cases hEscape : c = '\\'
        · subst hEscape
          rw [readQuoted_escape hQuote, if_pos rfl]
          refine follows_escape.bind fun x r hr => ?_
          refine (ih (s := r) (by omega)).bind fun xs r' hr' => ?_
          exact follows_pure _ (by omega)
        · rw [readQuoted_plain hQuote hEscape, if_neg hEscape]
          refine (ih (s := s) (by omega)).bind fun xs r hr => ?_
          exact follows_pure _ (by omega)

theorem follows_string (quote : Char) : Follows text s s.length (Cursor.string quote) (readString quote s) := by
  refine follows_remaining.andThen ?_
  refine (follows_quotedWithin quote (Nat.le_refl _)).bind fun xs r hr => ?_
  exact follows_pure _ hr

/-! ## Numbers -/

/-- A result without a part in the text. -/
theorem follows_ofExcept {x : Except Fault α} (h : ∀ fault, x = .error fault → fault.IsIn text) :
    Follows text s s.length (Cursor.ofExcept x) (do
      let a ← x
      return (a, s)) := by
  intro trail hStands
  cases x with
  | ok a => exact .ok hStands (Nat.le_refl _)
  | error fault => exact .error hStands.sound (h fault rfl)

/-- The digits of a number whose sign was read. -/
def readUnsigned (negative : Bool) (s : List Char) : Except Fault (Digits × List Char) :=
  match s.takeWhile Char.isDigit with
  | [] => .error (.malformed .missingNumber)
  | digits => .ok (⟨negative, digits⟩, s.dropWhile Char.isDigit)

theorem readDigits_of_ne_minus (h : s.head? ≠ some '-') : readDigits s = readUnsigned false s := by
  cases s with
  | nil => rfl
  | cons c s =>
    have hc : c ≠ '-' := by simpa using h
    simp [readDigits, hc]
    rfl

theorem follows_unsigned (negative : Bool) : Follows text s s.length (do
    match ← Cursor.run Char.isDigit with
    | [] => Cursor.fail (.malformed .missingNumber)
    | digits => return ⟨negative, digits⟩) (readUnsigned negative s) := by
  refine (follows_run Char.isDigit).andThen ?_
  rw [readUnsigned]
  split
  · exact follows_malformed .missingNumber
  · exact follows_pure _ (List.dropWhile_sublist _).length_le

theorem follows_digits : Follows text s s.length Cursor.digits (readDigits s) := by
  by_cases hMinus : s.head? = some '-'
  · obtain ⟨s, rfl⟩ := List.head?_eq_some_iff.1 hMinus
    have hSigned : Follows text ('-' :: s) s.length Cursor.signed (.ok (true, s)) :=
      follows_peek.andThen (follows_jump.andThen (follows_pure true (Nat.le_refl _)))
    exact hSigned.andThen ((follows_unsigned true).mono (Nat.le_succ _))
  · have hSigned : Follows text s s.length Cursor.signed (.ok (false, s)) := by
      refine follows_peek.andThen ?_
      rw [if_neg hMinus]
      exact follows_pure false (Nat.le_refl _)
    rw [readDigits_of_ne_minus hMinus]
    exact hSigned.andThen (follows_unsigned false)

/-- A number without a value is malformed, wherever it stands. -/
theorem isIn_integer (d : Digits) (fault : Fault) (h : d.integer = .error fault) : fault.IsIn text := by
  rw [Digits.integer] at h
  split at h <;> cases h
  trivial

theorem follows_integer : Follows text s s.length Cursor.integer (readInteger s) :=
  follows_digits.bind fun d _ hr => (follows_ofExcept (isIn_integer d)).mono hr

theorem takeFraction_digit {d : Char} (h : d.isDigit = true) (s : List Char) :
    takeFraction ('.' :: d :: s) = ((d :: s).takeWhile Char.isDigit, (d :: s).dropWhile Char.isDigit) := by
  simp [takeFraction, h]

theorem takeFraction_noDigit (h : s.head?.any Char.isDigit = false) : takeFraction ('.' :: s) = ([], '.' :: s) := by
  cases s with
  | nil => rfl
  | cons d s =>
    have hd : d.isDigit = false := h
    simp [takeFraction, hd]

theorem follows_fraction : Follows text s s.length Cursor.fraction (.ok (takeFraction s)) := by
  refine follows_peek.andThen ((follows_peekAt 1).andThen ?_)
  by_cases hGoes : s.head? = some '.' ∧ s[1]?.any Char.isDigit
  · rw [if_pos hGoes]
    obtain ⟨hPoint, hDigit⟩ := hGoes
    obtain ⟨u, rfl⟩ := List.head?_eq_some_iff.1 hPoint
    obtain ⟨d, u, rfl⟩ : ∃ d v, u = d :: v := by
      cases u with
      | nil => cases hDigit
      | cons d v => exact ⟨d, v, rfl⟩
    rw [takeFraction_digit hDigit]
    exact follows_jump.andThen ((follows_run Char.isDigit).mono (Nat.le_succ _))
  · rw [if_neg hGoes]
    have hNone : takeFraction s = ([], s) := by
      by_cases hPoint : s.head? = some '.'
      · obtain ⟨u, rfl⟩ := List.head?_eq_some_iff.1 hPoint
        refine takeFraction_noDigit ?_
        rw [List.head?_eq_getElem?, ← Bool.not_eq_true]
        exact fun hDigit => hGoes ⟨rfl, hDigit⟩
      · exact takeFraction_of_noPoint hPoint
    rw [hNone]
    exact follows_pure [] (Nat.le_refl _)

/-- The sign of an exponent, with the characters after it. -/
def takeSign (s : List Char) : List Char × List Char :=
  if s.head? = some '+' ∨ s.head? = some '-' then (s.head?.toList, s.tail) else ([], s)

theorem takeExponent_mark {mark : Char} (hMark : mark = 'e' ∨ mark = 'E') (s : List Char) :
    takeExponent (mark :: s) =
      (some ⟨(takeSign s).1, (takeSign s).2.takeWhile Char.isDigit⟩, (takeSign s).2.dropWhile Char.isDigit) := by
  cases s with
  | nil => simp [takeExponent, takeSign, hMark]
  | cons c s =>
    by_cases hSign : c = '+' ∨ c = '-'
    · rw [takeExponent_signed hMark hSign]
      simp [takeSign, hSign]
    · rw [takeExponent_unsigned hMark (by simpa using hSign)]
      simp [takeSign, hSign]

theorem takeExponent_noMark (h : ¬(s.head? = some 'e' ∨ s.head? = some 'E')) : takeExponent s = (none, s) := by
  cases s with
  | nil => rfl
  | cons c s =>
    have hc : ¬(c = 'e' ∨ c = 'E') := by simpa using h
    simp [takeExponent, hc]

theorem length_takeSign_le (s : List Char) : (takeSign s).2.length ≤ s.length := by
  rw [takeSign]
  split
  · exact s.tail_sublist.length_le
  · exact Nat.le_refl _

theorem follows_exponentSign :
    Follows text s s.length Cursor.exponentSign (.ok ((takeSign s).1, (takeSign s).2)) := by
  refine follows_peek.andThen ?_
  rw [takeSign]
  split
  · rename_i hSign
    cases s with
    | nil => simp at hSign
    | cons c s => exact follows_jump.andThen (follows_pure _ (Nat.le_succ _))
  · exact follows_pure [] (Nat.le_refl _)

theorem follows_exponent : Follows text s s.length Cursor.exponent (.ok (takeExponent s)) := by
  refine follows_peek.andThen ?_
  by_cases hMark : s.head? = some 'e' ∨ s.head? = some 'E'
  · rw [if_pos hMark]
    cases s with
    | nil => simp at hMark
    | cons mark s =>
      have hLength := (List.dropWhile_sublist (l := (takeSign s).2) Char.isDigit).length_le
      have hLess := length_takeSign_le s
      rw [takeExponent_mark (by simpa using hMark)]
      refine follows_jump.andThen (follows_exponentSign.andThen ((follows_run Char.isDigit).andThen ?_))
      exact follows_pure _ (by simp only [List.length_cons]; omega)
  · rw [takeExponent_noMark hMark, if_neg hMark]
    exact follows_pure none (Nat.le_refl _)

theorem isIn_numberOf (d : Digits) (fraction : List Char) (exponent : Option ExponentText) (fault : Fault)
    (h : numberOf d fraction exponent = .error fault) : fault.IsIn text := by
  unfold numberOf at h
  split at h
  · cases hInteger : d.integer with
    | ok i =>
      rw [hInteger] at h
      cases h
    | error fault' =>
      rw [hInteger] at h
      cases h
      exact isIn_integer d _ hInteger
  · dsimp only at h
    split at h <;> cases h
    trivial

theorem length_takeFraction_le (s : List Char) : (takeFraction s).2.length ≤ s.length := by
  unfold takeFraction
  split
  · split
    · exact Nat.le_refl _
    · exact Nat.le_trans (List.dropWhile_sublist _).length_le (Nat.le_succ _)
  · exact Nat.le_refl _

theorem length_takeExponent_le (s : List Char) : (takeExponent s).2.length ≤ s.length := by
  by_cases hMark : s.head? = some 'e' ∨ s.head? = some 'E'
  · cases s with
    | nil => simp at hMark
    | cons mark s =>
      rw [takeExponent_mark (by simpa using hMark)]
      have hDigits := (List.dropWhile_sublist (l := (takeSign s).2) Char.isDigit).length_le
      exact Nat.le_succ_of_le (Nat.le_trans hDigits (length_takeSign_le s))
  · rw [takeExponent_noMark hMark]

theorem follows_number : Follows text s s.length Cursor.number (readNumber s) := by
  refine follows_digits.bind fun d r hr => ?_
  refine follows_fraction.andThen (follows_exponent.andThen ?_)
  have hLength := Nat.le_trans (length_takeExponent_le _) (length_takeFraction_le r)
  exact (follows_ofExcept (isIn_numberOf d _ _)).mono (Nat.le_trans hLength hr)

/-! ## Literals -/

theorem follows_constant (h : ∀ c ∈ s.head?, isBlank c = false) : Follows text s s.length Cursor.constant
    (match afterKeyword? "true".toList s with
      | some r => .ok (.bool true, r)
      | none =>
        match afterKeyword? "false".toList s with
        | some r => .ok (.bool false, r)
        | none =>
          match afterKeyword? "null".toList s with
          | some r => .ok (.null, r)
          | none => .error (.expected .literal s)) := by
  refine follows_keyword (fun r h hr => ?_) fun hTrue => ?_
  · rw [h]
    exact follows_pure _ hr
  refine follows_keyword (fun r h hr => ?_) fun hFalse => ?_
  · rw [hTrue, h]
    exact follows_pure _ hr
  refine follows_keyword (fun r h hr => ?_) fun hNull => ?_
  · rw [hTrue, hFalse, h]
    exact follows_pure _ hr
  rw [hTrue, hFalse, hNull]
  exact follows_failHere .literal h

theorem follows_literal (h : ∀ c ∈ s.head?, isBlank c = false) :
    Follows text s s.length Cursor.literal (readLiteral s) := by
  refine follows_peek.andThen ?_
  cases s with
  | nil => exact follows_ended .literal
  | cons c s =>
    simp only [List.head?_cons, readLiteral]
    split_ifs with hQuote hNumber
    · refine follows_jump.andThen ((follows_string c).bind fun t r hr => ?_)
      exact follows_pure _ (Nat.le_succ_of_le hr)
    · exact follows_number.bind fun n r hr => follows_pure _ hr
    · exact follows_constant h

end TemplateQuery.Query
