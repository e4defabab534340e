import TemplateQuery.Proofs.Query.Tokens
import TemplateQuery.Proofs.Steps
import TemplateQuery.Template.Tokenize

/-!
# Texts that are cut into tokens

What each token looks like, and which texts are cut into given tokens. A token takes all the characters that it can, so it
ends where the next character does not belong to it.
-/
namespace TemplateQuery.Template

open Query (blanks numeral decimal forall_mem_of_all exists_run takeWhile_append_stop dropWhile_append_stop isDigit_iff)
open Text (isBlank skipBlank decimalValue)

/-! ## What tokens look like -/

structure IsWord (w : List Char) : Prop where
  first : ∃ c rest, w = c :: rest ∧ startsWord c = true
  chars : ∀ c ∈ w, continuesWord c = true

theorem isWord_iff {w : List Char} : IsWord w ↔ (w.head?.any startsWord && w.all continuesWord) = true := by
  rw [Bool.and_eq_true, List.all_eq_true]
  cases w with
  | nil =>
    constructor
    · rintro ⟨⟨_, _, ⟨⟩, -⟩, -⟩
    · rintro ⟨⟨⟩, -⟩
  | cons c rest =>
    constructor
    · rintro ⟨⟨_, _, ⟨⟩, hStart⟩, hChars⟩
      exact ⟨hStart, hChars⟩
    · rintro ⟨hStart, hChars⟩
      exact ⟨⟨c, rest, rfl, hStart⟩, hChars⟩

instance (w : List Char) : Decidable (IsWord w) := decidable_of_iff _ isWord_iff.symm

structure IsDigits (s : List Char) : Prop where
  nonempty : s ≠ []
  digits : ∀ c ∈ s, c.isDigit = true

def sign (negative : Bool) : List Char := if negative then ['-'] else []

/-- A number with digits on both sides of a point. -/
def pointed (x : Binary64) : Language Char :=
  {s | ∃ negative digits fraction, IsDigits digits ∧ IsDigits fraction ∧
    s = sign negative ++ (digits ++ '.' :: fraction) ∧ floatToken negative digits fraction = .float x}

/-- A string between quotes of either kind, without such a quote in it. -/
def quotedPlain (v : String) : Language Char :=
  {s | ∃ quote, (quote = '\'' ∨ quote = '"') ∧ quote ∉ v.toList ∧ s = quote :: (v.toList ++ [quote])}

def AvoidsQuote (s : String) : Prop := '\'' ∉ s.toList ∨ '"' ∉ s.toList

/-- A string between quotes that it avoids, if there are any. -/
def inQuotes (s : String) : String :=
  let quote := if '\'' ∈ s.toList then "\"" else "'"
  quote ++ s ++ quote

theorem inQuotes_mem {s : String} (h : AvoidsQuote s) : (inQuotes s).toList ∈ quotedPlain s := by
  rw [inQuotes]
  by_cases hSingle : '\'' ∈ s.toList
  · exact ⟨'"', .inr rfl, h.resolve_left (not_not.2 hSingle), by simp [hSingle]⟩
  · exact ⟨'\'', .inl rfl, hSingle, by simp [hSingle]⟩

def Token.spelling : Token → Language Char
  | .word w => {s | IsWord s ∧ String.ofList s = w}
  | .string v => quotedPlain v
  | .int i => {s | fitsInt64 i = true ∧ s ∈ numeral i}
  | .float x => pointed x
  | .dot => Query.word ['.']
  | .openBracket => Query.word ['[']
  | .closeBracket => Query.word [']']
  | .pipe => Query.word ['|']
  | .colon => Query.word [':']
  | .comma => Query.word [',']

/-- The text after a token does not go on with it. -/
def Token.EndsBefore : Token → List Char → Prop
  | .word _, rest => ∀ c ∈ rest.head?, continuesWord c = false
  | .int _, rest => (∀ c ∈ rest.head?, c.isDigit = false) ∧ ∀ after, rest = '.' :: after → startsWithDigit after = false
  | .float _, rest => ∀ c ∈ rest.head?, c.isDigit = false
  | _, _ => True

/-- A text is cut into tokens: each of them takes all that belongs to it, and white space may stand around them. -/
inductive Lexes : List Char → List Token → Prop where
  | nil {b : List Char} (hBlanks : b ∈ blanks) : Lexes b []
  | cons {b s rest : List Char} {t : Token} {ts : List Token} (hBlanks : b ∈ blanks) (hToken : s ∈ t.spelling)
    (hEnd : t.EndsBefore rest) (hRest : Lexes rest ts) : Lexes (b ++ (s ++ rest)) (t :: ts)

/-! ## Characters -/

theorem startsWord_of_mark : ∀ c ∈ ".[]|:,'\"-0123456789".toList, startsWord c = false := forall_mem_of_all (by decide)

theorem continuesWord_of_mark : ∀ c ∈ ".[]|:,'\"".toList, continuesWord c = false := forall_mem_of_all (by decide)

theorem isDigit_of_mark : ∀ c ∈ ".[]|:,'\"".toList, c.isDigit = false := forall_mem_of_all (by decide)

theorem mark?_eq_none {c : Char} (h : c ∉ ".[]|:,".toList) : mark? c = none := by
  unfold mark?
  split <;> first | rfl | exact absurd (by decide) h

theorem isBlank_of_startsWord {c : Char} (h : startsWord c = true) : isBlank c = false := by
  rw [Bool.eq_false_iff]
  intro hBlank
  rw [startsWord, Text.isAlphabetic_of_isBlank hBlank, Bool.false_or, decide_eq_true_eq] at h
  subst h
  exact absurd hBlank (by decide)

theorem continuesWord_of_startsWord {c : Char} (h : startsWord c = true) : continuesWord c = true := by
  rw [startsWord, Bool.or_eq_true] at h
  rcases h with h | h <;> simp [continuesWord, Text.isAlphanumeric, h]

theorem continuesWord_of_isBlank {c : Char} (h : isBlank c = true) : continuesWord c = false := by
  simp only [continuesWord, Text.isAlphanumeric_of_isBlank h, Bool.false_or, Bool.or_eq_false_iff,
    decide_eq_false_iff_not]
  refine ⟨⟨?_, ?_⟩, ?_⟩ <;>
  · rintro rfl
    exact absurd h (by decide)

theorem startsWithDigit_eq_false {s : List Char} :
    startsWithDigit s = false ↔ ∀ c ∈ s.head?, c.isDigit = false := by
  cases s <;> simp [startsWithDigit]

theorem IsDigits.starts {s : List Char} (h : IsDigits s) (rest : List Char) :
    ∃ c s', s = c :: s' ∧ c.isDigit = true ∧ startsWithDigit (s ++ rest) = true := by
  obtain ⟨c, s', rfl, hc⟩ := Query.head?_of_all h.nonempty h.digits
  exact ⟨c, s', rfl, hc, hc⟩

/-! ## Numbers -/

theorem mem_numeral_iff {i : Int} {s : List Char} :
    s ∈ numeral i ↔
      ∃ negative digits, IsDigits digits ∧ s = sign negative ++ digits ∧ signed negative (decimalValue digits) = i := by
  constructor
  · rintro (⟨n, rfl, hne, hDigits, hValue⟩ | ⟨n, rfl, hs⟩)
    · exact ⟨false, s, ⟨hne, hDigits⟩, rfl, by simp [signed, hValue]⟩
    · obtain ⟨_, rfl, digits, ⟨hne, hDigits, hValue⟩, rfl⟩ := Language.mem_mul.1 hs
      exact ⟨true, digits, ⟨hne, hDigits⟩, rfl, by simp [signed, hValue]⟩
  · rintro ⟨negative, digits, hDigits, rfl, rfl⟩
    have hDecimal : digits ∈ decimal (decimalValue digits) := ⟨hDigits.nonempty, hDigits.digits, rfl⟩
    cases negative with
    | false => exact .inl ⟨_, rfl, hDecimal⟩
    | true => exact .inr ⟨_, rfl, Language.append_mem_mul (Query.mem_word.2 rfl) hDecimal⟩

section Numbers

variable {negative : Bool} {digits fraction rest : List Char}

/-- A whole number is read if no digit follows and no point with a digit after it. -/
theorem readNumber_whole (hDigits : IsDigits digits) (hEnd : ∀ i, (Token.int i).EndsBefore rest) :
    readNumber negative (digits ++ rest) = do
      let t ← intToken negative digits
      return (t, rest) := by
  obtain ⟨hHead, hPoint⟩ := hEnd 0
  rw [readNumber, takeWhile_append_stop hDigits.digits hHead, dropWhile_append_stop hDigits.digits hHead]
  split
  · rename_i after
    have hNone : after.takeWhile Char.isDigit = [] :=
      takeWhile_append_stop (List.forall_mem_nil _) (startsWithDigit_eq_false.1 (hPoint after rfl))
    rw [hNone]
  · rfl

theorem readNumber_pointed (hDigits : IsDigits digits) (hFraction : IsDigits fraction)
    (hEnd : ∀ c ∈ rest.head?, c.isDigit = false) :
    readNumber negative (digits ++ '.' :: (fraction ++ rest)) = .ok (floatToken negative digits fraction, rest) := by
  have hPoint : ∀ c ∈ ('.' :: (fraction ++ rest)).head?, c.isDigit = false := by
    rintro c ⟨⟩
    decide
  rw [readNumber, takeWhile_append_stop hDigits.digits hPoint, dropWhile_append_stop hDigits.digits hPoint]
  simp only [takeWhile_append_stop hFraction.digits hEnd, dropWhile_append_stop hFraction.digits hEnd]
  obtain ⟨c, fraction, rfl, -⟩ := hFraction.starts []
  rfl

/-- What is read as a number is spelled so. -/
theorem exists_spelling_of_readNumber {s : List Char} {t : Token} (hStart : startsWithDigit s = true)
    (h : readNumber negative s = .ok (t, rest)) :
    ∃ body, s = body ++ rest ∧ sign negative ++ body ∈ t.spelling ∧ t.EndsBefore rest := by
  obtain ⟨digits, after, rfl, hRun, hHead⟩ := exists_run Char.isDigit s
  have hDigits : IsDigits digits := by
    refine ⟨?_, hRun⟩
    rintro rfl
    rw [List.nil_append, startsWithDigit_eq_false.2 hHead] at hStart
    cases hStart
  -- A point belongs to the number only with a digit after it.
  by_cases hPoint : ∃ c afterPoint, after = '.' :: c :: afterPoint ∧ c.isDigit = true
  · obtain ⟨c, afterPoint, rfl, hc⟩ := hPoint
    obtain ⟨fraction, after, hSplit, hRun, hHead⟩ := exists_run Char.isDigit (c :: afterPoint)
    have hFraction : IsDigits fraction := by
      refine ⟨?_, hRun⟩
      rintro rfl
      rw [List.nil_append] at hSplit
      subst hSplit
      rw [hHead c rfl] at hc
      cases hc
    rw [hSplit, readNumber_pointed hDigits hFraction hHead] at h
    cases h
    exact ⟨digits ++ '.' :: fraction, by rw [hSplit]; simp, ⟨negative, digits, fraction, hDigits, hFraction, rfl, rfl⟩,
      hHead⟩
  · have hEnd : ∀ i, (Token.int i).EndsBefore after := by
      refine fun _ => ⟨hHead, ?_⟩
      rintro (_ | ⟨c, afterPoint⟩) rfl
      · rfl
      · rw [startsWithDigit, Bool.eq_false_iff]
        exact fun hc => hPoint ⟨c, afterPoint, rfl, hc⟩
    rw [readNumber_whole hDigits hEnd] at h
    obtain ⟨t', hInt, h⟩ := bind_eq_ok.1 h
    cases h
    simp only [intToken] at hInt
    split at hInt
    · rename_i hFits
      cases hInt
      exact ⟨digits, rfl, ⟨hFits, mem_numeral_iff.2 ⟨negative, digits, hDigits, rfl, rfl⟩⟩, hEnd _⟩
    · cases hInt

end Numbers

/-! ## Tokens -/

theorem readString_quoted {quote : Char} {v : List Char} (h : quote ∉ v) (rest : List Char) :
    readString quote (v ++ quote :: rest) = .ok (.string (String.ofList v), rest) := by
  have hRun : ∀ c ∈ v, (c != quote) = true := by
    intro c hc
    rw [bne_iff_ne]
    rintro rfl
    exact h hc
  have hHead : ∀ c ∈ (quote :: rest).head?, (c != quote) = false := by
    rintro c ⟨⟩
    simp
  rw [readString, takeWhile_append_stop hRun hHead, dropWhile_append_stop hRun hHead]

theorem readToken_quote {quote : Char} (h : quote = '\'' ∨ quote = '"') (s : List Char) :
    readToken quote s = readString quote s := by
  rcases h with rfl | rfl <;> rfl

theorem readToken_digit {c : Char} (h : c.isDigit = true) (s : List Char) :
    readToken c s = readNumber false (c :: s) := by
  have hMark : c ∉ ".[]|:,".toList := by
    have hNone : ∀ c ∈ "0123456789".toList, c ∉ ".[]|:,".toList := forall_mem_of_all (by decide)
    exact hNone c (isDigit_iff.1 h)
  have hQuote : ¬(c = '\'' ∨ c = '"') := by
    rintro (rfl | rfl) <;> exact absurd h (by decide)
  rw [readToken, mark?_eq_none hMark]
  simp only [if_neg hQuote, h, if_true]

theorem readToken_minus {s : List Char} (h : startsWithDigit s = true) : readToken '-' s = readNumber true s := by
  simp [readToken, mark?, h]

theorem readToken_word {c : Char} (h : startsWord c = true) (s : List Char) :
    readToken c s =
      .ok (.word (String.ofList ((c :: s).takeWhile continuesWord)), (c :: s).dropWhile continuesWord) := by
  have hOther : c ∉ ".[]|:,'\"-0123456789".toList := by
    intro hMem
    rw [startsWord_of_mark c hMem] at h
    cases h
  have hMark : c ∉ ".[]|:,".toList := by
    intro hMem
    exact hOther (List.mem_append_left "'\"-0123456789".toList hMem)
  have hDigit : ¬c.isDigit = true := by
    intro hDigit
    exact hOther (List.mem_append_right ".[]|:,'\"-".toList (isDigit_iff.1 hDigit))
  have hQuote : ¬(c = '\'' ∨ c = '"') := by
    rintro (rfl | rfl) <;> exact hOther (by decide)
  have hMinus : ¬(c = '-' ∧ startsWithDigit s = true) := by
    rintro ⟨rfl, -⟩
    exact hOther (by decide)
  rw [readToken, mark?_eq_none hMark]
  simp only [if_neg hQuote, if_neg hDigit, if_neg hMinus, h, if_true]

/-- The text of a number starts with a digit or a minus sign, and then it is read as a number. -/
theorem readToken_number {negative : Bool} {digits : List Char} (hDigits : IsDigits digits) (more rest : List Char) :
    ∃ c s, sign negative ++ (digits ++ more) = c :: s ∧ isBlank c = false ∧
      readToken c (s ++ rest) = readNumber negative (digits ++ more ++ rest) := by
  obtain ⟨c, s, hStart, hc, hRest⟩ := hDigits.starts (more ++ rest)
  cases negative with
  | true =>
    refine ⟨'-', digits ++ more, rfl, by decide, readToken_minus ?_⟩
    rwa [List.append_assoc]
  | false =>
    have hBlank : isBlank c = false := Query.isBlank_of_isNameChar (Query.isNameChar_of_isDigit hc)
    refine ⟨c, s ++ more, by rw [hStart]; rfl, hBlank, ?_⟩
    rw [readToken_digit hc, hStart]
    rfl

/-- A spelled token is read if what follows does not go on with it. -/
theorem readToken_spelling {t : Token} {s rest : List Char} (ht : s ∈ t.spelling) (hEnd : t.EndsBefore rest) :
    ∃ c s', s = c :: s' ∧ isBlank c = false ∧ readToken c (s' ++ rest) = .ok (t, rest) := by
  cases t with
  | word w =>
    obtain ⟨hWord, rfl⟩ := ht
    obtain ⟨c, s', rfl, hc⟩ := hWord.first
    refine ⟨c, s', rfl, isBlank_of_startsWord hc, ?_⟩
    rw [readToken_word hc, ← List.cons_append, takeWhile_append_stop hWord.chars hEnd,
      dropWhile_append_stop hWord.chars hEnd]
  | string v =>
    obtain ⟨quote, hQuote, hPlain, rfl⟩ := ht
    refine ⟨quote, v.toList ++ [quote], rfl, by rcases hQuote with rfl | rfl <;> decide, ?_⟩
    rw [readToken_quote hQuote, List.append_assoc, List.singleton_append, readString_quoted hPlain, String.ofList_toList]
  | int i =>
    obtain ⟨hFits, hNumeral⟩ := ht
    obtain ⟨negative, digits, hDigits, rfl, hValue⟩ := mem_numeral_iff.1 hNumeral
    obtain ⟨c, s', hStart, hBlank, hRead⟩ := readToken_number hDigits [] rest
    rw [List.append_nil] at hStart hRead
    refine ⟨c, s', hStart, hBlank, ?_⟩
    rw [hRead, readNumber_whole hDigits fun _ => hEnd]
    simp [intToken, hValue, hFits]
  | float x =>
    obtain ⟨negative, digits, fraction, hDigits, hFraction, rfl, hValue⟩ := ht
    obtain ⟨c, s', hStart, hBlank, hRead⟩ := readToken_number hDigits ('.' :: fraction) rest
    refine ⟨c, s', hStart, hBlank, ?_⟩
    rw [hRead, List.append_assoc, List.cons_append, readNumber_pointed hDigits hFraction hEnd, hValue]
  | dot | openBracket | closeBracket | pipe | colon | comma =>
    obtain rfl := Query.mem_word.1 ht
    exact ⟨_, [], rfl, by decide, rfl⟩

theorem mem_spelling_of_mark? {c : Char} {t : Token} (h : mark? c = some t) :
    [c] ∈ t.spelling ∧ ∀ rest, t.EndsBefore rest := by
  unfold mark? at h
  split at h <;> cases h <;> exact ⟨rfl, fun _ => trivial⟩

theorem exists_spelling_of_readString {quote : Char} (hQuote : quote = '\'' ∨ quote = '"') {s rest : List Char} {t : Token}
    (h : readString quote s = .ok (t, rest)) : ∃ s', quote :: s = s' ++ rest ∧ s' ∈ t.spelling ∧ t.EndsBefore rest := by
  obtain ⟨v, after, rfl, hRun, hHead⟩ := exists_run (· != quote) s
  cases after with
  | nil =>
    rw [readString, dropWhile_append_stop hRun hHead] at h
    cases h
  | cons c after =>
    obtain rfl : c = quote := by simpa using hHead c rfl
    have hPlain : c ∉ v := fun hMem => by simpa using hRun c hMem
    rw [readString_quoted hPlain] at h
    cases h
    refine ⟨c :: (v ++ [c]), by simp, ⟨c, hQuote, ?_, ?_⟩, trivial⟩ <;> rw [String.toList_ofList]
    exact hPlain

theorem exists_spelling_of_word {c : Char} {s rest : List Char} {t : Token} (hStart : startsWord c = true)
    (h : readToken c s = .ok (t, rest)) : ∃ s', c :: s = s' ++ rest ∧ s' ∈ t.spelling ∧ t.EndsBefore rest := by
  obtain ⟨w, after, hSplit, hRun, hHead⟩ := exists_run continuesWord (c :: s)
  rw [readToken_word hStart, hSplit, takeWhile_append_stop hRun hHead, dropWhile_append_stop hRun hHead] at h
  cases h
  cases w with
  | nil =>
    rw [List.nil_append] at hSplit
    subst hSplit
    have hContinues := hHead c rfl
    rw [continuesWord_of_startsWord hStart] at hContinues
    cases hContinues
  | cons d w =>
    cases hSplit
    exact ⟨c :: w, rfl, ⟨⟨⟨c, w, rfl, hStart⟩, hRun⟩, rfl⟩, hHead⟩

/-- What is read as a token is spelled so, and what is left does not go on with it. -/
theorem exists_spelling_of_readToken {c : Char} {s rest : List Char} {t : Token} (h : readToken c s = .ok (t, rest)) :
    ∃ s', c :: s = s' ++ rest ∧ s' ∈ t.spelling ∧ t.EndsBefore rest := by
  cases hMark : mark? c with
  | some t' =>
    rw [readToken, hMark] at h
    cases h
    obtain ⟨hSpelling, hEnd⟩ := mem_spelling_of_mark? hMark
    exact ⟨[c], rfl, hSpelling, hEnd _⟩
  | none =>
    by_cases hQuote : c = '\'' ∨ c = '"'
    · rw [readToken_quote hQuote] at h
      exact exists_spelling_of_readString hQuote h
    by_cases hDigit : c.isDigit = true
    · rw [readToken_digit hDigit] at h
      have hStart : startsWithDigit (c :: s) = true := hDigit
      exact exists_spelling_of_readNumber hStart h
    by_cases hMinus : c = '-' ∧ startsWithDigit s = true
    · obtain ⟨rfl, hStart⟩ := hMinus
      rw [readToken_minus hStart] at h
      obtain ⟨body, rfl, hSpelling, hEnd⟩ := exists_spelling_of_readNumber hStart h
      exact ⟨'-' :: body, rfl, hSpelling, hEnd⟩
    by_cases hWord : startsWord c = true
    · exact exists_spelling_of_word hWord h
    · rw [readToken, hMark] at h
      simp only [if_neg hQuote, if_neg hDigit, if_neg hMinus, if_neg hWord] at h
      cases h

/-! ## Texts -/

theorem lexes_nil_iff {s : List Char} : Lexes s [] ↔ skipBlank s = [] := by
  constructor
  · rintro ⟨hb⟩
    rw [← List.append_nil s, Text.skipBlank_append hb, skipBlank]
  · intro h
    obtain ⟨b, s', rfl, hb, hHead⟩ := exists_run isBlank s
    cases s' with
    | nil =>
      rw [List.append_nil]
      exact .nil hb
    | cons c rest =>
      rw [Text.skipBlank_append_cons hb (hHead c rfl)] at h
      cases h

theorem lexes_cons_iff {s : List Char} {t : Token} {ts : List Token} :
    Lexes s (t :: ts) ↔
      ∃ s' rest, skipBlank s = s' ++ rest ∧ s' ∈ t.spelling ∧ t.EndsBefore rest ∧ Lexes rest ts := by
  constructor
  · intro h
    cases h with
    | @cons b s' rest _ _ hBlanks hToken hEnd hRest =>
      obtain ⟨c, s'', rfl, hc, -⟩ := readToken_spelling hToken hEnd
      exact ⟨c :: s'', rest, Text.skipBlank_append_cons hBlanks hc _, hToken, hEnd, hRest⟩
  · rintro ⟨s', rest, hSkip, hToken, hEnd, hRest⟩
    obtain ⟨b, after, rfl, hb, hHead⟩ := exists_run isBlank s
    cases after with
    | nil =>
      obtain ⟨c, s'', rfl, -, -⟩ := readToken_spelling hToken hEnd
      rw [Text.skipBlank_append hb] at hSkip
      cases hSkip
    | cons c after =>
      rw [Text.skipBlank_append_cons hb (hHead c rfl)] at hSkip
      rw [hSkip]
      exact .cons hb hToken hEnd hRest

theorem not_lexes_cons {s : List Char} (h : skipBlank s = []) {t : Token} {ts : List Token} : ¬Lexes s (t :: ts) := by
  intro hLexes
  obtain ⟨s', rest, hSkip, hToken, hEnd, -⟩ := lexes_cons_iff.1 hLexes
  obtain ⟨c, s'', rfl, -, -⟩ := readToken_spelling hToken hEnd
  rw [h] at hSkip
  cases hSkip

/-- With enough rounds, the tokens of a text are those that it is cut into. -/
theorem tokensWithin_eq_ok_iff {fuel : Nat} {s : List Char} (hFuel : s.length ≤ fuel) {ts : List Token} :
    tokensWithin fuel s = .ok ts ↔ Lexes s ts := by
  induction fuel generalizing s ts with
  | zero =>
    obtain rfl : s = [] := List.length_eq_zero_iff.1 (by omega)
    cases ts with
    | nil => exact ⟨fun _ => lexes_nil_iff.2 rfl, fun _ => rfl⟩
    | cons t ts => exact ⟨nofun, fun h => absurd h (not_lexes_cons rfl)⟩
  | succ fuel ih =>
    have hLength := Text.length_skipBlank_le s
    rw [tokensWithin]
    cases hSkip : skipBlank s with
    | nil =>
      cases ts with
      | nil => exact ⟨fun _ => lexes_nil_iff.2 hSkip, fun _ => rfl⟩
      | cons t ts => exact ⟨nofun, fun h => absurd h (not_lexes_cons hSkip)⟩
    | cons c after =>
      rw [hSkip] at hLength
      constructor
      · intro h
        obtain ⟨⟨t, rest⟩, hRead, h⟩ := bind_eq_ok.1 h
        obtain ⟨ts', hRest, h⟩ := bind_eq_ok.1 h
        cases h
        obtain ⟨s', hSplit, hToken, hEnd⟩ := exists_spelling_of_readToken hRead
        obtain ⟨d, s'', rfl, -, -⟩ := readToken_spelling hToken hEnd
        rw [hSplit] at hLength
        refine lexes_cons_iff.2 ⟨_, rest, hSkip.trans hSplit, hToken, hEnd, (ih ?_).1 hRest⟩
        simp only [List.cons_append, List.length_cons, List.length_append] at hLength
        omega
      · intro h
        cases ts with
        | nil =>
          rw [lexes_nil_iff, hSkip] at h
          cases h
        | cons t ts =>
          obtain ⟨s', rest, hSplit, hToken, hEnd, hRest⟩ := lexes_cons_iff.1 h
          obtain ⟨d, s'', rfl, -, hRead⟩ := readToken_spelling hToken hEnd
          rw [hSkip, List.cons_append, List.cons.injEq] at hSplit
          obtain ⟨rfl, rfl⟩ := hSplit
          simp only [List.length_cons, List.length_append] at hLength
          have hTail : tokensWithin fuel rest = .ok ts := (ih (by omega)).2 hRest
          simp only [hRead, ok_bind, hTail, pure_eq_ok]

/-- A text has just the tokens that it is cut into. -/
theorem tokens_eq_ok_iff {source : String} {ts : List Token} : tokens source = .ok ts ↔ Lexes source.toList ts :=
  tokensWithin_eq_ok_iff (Nat.le_refl _)

end TemplateQuery.Template
