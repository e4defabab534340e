import TemplateQuery.Pattern.Reader
import TemplateQuery.Proofs.Query.Operands
import TemplateQuery.Proofs.Template.Lexing
import TemplateQuery.Query.Selection
import TemplateQuery.Query.Standard
import TemplateQuery.Template.Expression

/-!
# Numerals in queries and in templates

Filters of queries and expressions of templates have numerals in common: a minus sign or none, digits, and perhaps a point
with more digits after it. Each of the two languages has a reader of its own for them. Both give a whole number that fits
64 bits and refuse a larger one, and both round a number with a point in the same way. They part where that number is too
large for any finite value.
-/
namespace TemplateQuery

open Text (isBlank skipBlank decimalValue)
open Template (IsDigits sign signed)

structure Numeral where
  negative : Bool
  digits : List Char
  /-- The digits after the point, or none if there is no point. -/
  fraction : List Char
  isDigits : IsDigits digits
  isFraction : ∀ c ∈ fraction, c.isDigit = true

namespace Numeral

def tail (n : Numeral) : List Char := if n.fraction = [] then [] else '.' :: n.fraction

def text (n : Numeral) : List Char := sign n.negative ++ (n.digits ++ n.tail)

/-- The floating-point number nearest to the numeral. -/
def real (n : Numeral) : Binary64 :=
  Binary64.ofDecimal n.negative (decimalValue (n.digits ++ n.fraction)) (-(n.fraction.length : Int))

/-- The number that a numeral stands for: a whole one if it has no point, and otherwise the nearest finite one. -/
def number? (n : Numeral) : Option Number :=
  if n.fraction = [] then
    if fitsInt64 (signed n.negative (decimalValue n.digits)) then
      some (.int (signed n.negative (decimalValue n.digits)))
    else none
  else if n.real.isFinite then some (.real n.real)
  else none

/-- What follows cannot be taken for a part of a numeral. -/
structure Ends (rest : List Char) : Prop where
  name : Query.startsWithNameChar rest = false
  point : rest.head? ≠ some '.'

theorem Ends.noDigit {rest : List Char} (h : Ends rest) : ∀ c ∈ rest.head?, c.isDigit = false :=
  Query.noDigit_of_noNameChar h.name

theorem ends_nil : Ends [] := ⟨rfl, by simp⟩

theorem ends_bracket : Ends [']'] := ⟨by decide, by decide⟩

variable (n : Numeral) {rest : List Char}

theorem tail_noDigit (h : Ends rest) : ∀ c ∈ (n.tail ++ rest).head?, c.isDigit = false := by
  by_cases hFraction : n.fraction = []
  · simpa [tail, hFraction] using h.noDigit
  · simp [tail, hFraction]

/-! ## In queries -/

theorem readDigits_text (h : Ends rest) :
    Query.readDigits (n.text ++ rest) = .ok (⟨n.negative, n.digits⟩, n.tail ++ rest) := by
  have hDecimal : n.digits ∈ Query.decimal (decimalValue n.digits) := ⟨n.isDigits.nonempty, n.isDigits.digits, rfl⟩
  have hRead := Query.readDigits_decimal hDecimal (n.tail_noDigit h)
  cases hSign : n.negative with
  | false => simpa [text, sign, hSign] using hRead.1
  | true => simpa [text, sign, hSign] using hRead.2

theorem takeFraction_tail (h : Ends rest) : Query.takeFraction (n.tail ++ rest) = (n.fraction, rest) := by
  by_cases hFraction : n.fraction = []
  · simpa [tail, hFraction] using Query.takeFraction_of_noPoint h.point
  · obtain ⟨c, fraction, hSplit⟩ := List.exists_cons_of_ne_nil hFraction
    have hTake := Query.takeWhile_append_stop n.isFraction h.noDigit
    have hDrop := Query.dropWhile_append_stop n.isFraction h.noDigit
    rw [tail, if_neg hFraction, List.cons_append, Query.takeFraction, hTake, hDrop, hSplit]

theorem digits_text : Query.Digits.text ⟨n.negative, n.digits⟩ = sign n.negative ++ n.digits := by
  cases hSign : n.negative <;> simp [Query.Digits.text, sign]

/-- The number of the parts of a numeral, if it has one, and otherwise the text of the numeral is at fault. -/
theorem numberOf_eq :
    Query.numberOf ⟨n.negative, n.digits⟩ n.fraction none =
      match n.number? with
      | some x => .ok x
      | none => .error (Query.invalidNumber n.text) := by
  by_cases hFraction : n.fraction = []
  · have hValue : Query.Digits.value ⟨n.negative, n.digits⟩ = signed n.negative (decimalValue n.digits) := rfl
    have hText : n.text = sign n.negative ++ n.digits := by simp [text, tail, hFraction]
    by_cases hFits : fitsInt64 (signed n.negative (decimalValue n.digits)) = true
    · simp [Query.numberOf, number?, hFraction, Query.Digits.integer, hValue, hFits, Except.map]
    · simp [Query.numberOf, number?, hFraction, Query.Digits.integer, hValue, hFits, Except.map, digits_text, hText]
  · have hText : n.text = sign n.negative ++ n.digits ++ '.' :: n.fraction := by simp [text, tail, hFraction]
    have hReal : Binary64.ofDecimal n.negative (decimalValue (n.digits ++ n.fraction)) (-(n.fraction.length : Int)) =
        n.real := rfl
    by_cases hFinite : n.real.isFinite = true
    · simp [Query.numberOf, number?, hFraction, hReal, hFinite]
    · simp [Query.numberOf, number?, hFraction, hReal, hFinite, digits_text, hText]

theorem starts_text : ∃ c s, n.text = c :: s ∧ (c = '-' ∨ c.isDigit = true) := by
  obtain ⟨c, s, hDigits, hc⟩ := Query.head?_of_all n.isDigits.nonempty n.isDigits.digits
  cases hSign : n.negative with
  | false => exact ⟨c, s ++ n.tail, by simp [text, sign, hSign, hDigits], .inr hc⟩
  | true => exact ⟨'-', n.digits ++ n.tail, by simp [text, sign, hSign], .inl rfl⟩

/-- The numeral as a literal of a filter. -/
theorem readLiteral_text (h : Ends rest) :
    Query.readLiteral (n.text ++ rest) =
      match n.number? with
      | some x => .ok (.number x, rest)
      | none => .error (Query.invalidNumber n.text) := by
  have hNumber : Query.readNumber (n.text ++ rest) =
      (do
        let x ← Query.numberOf ⟨n.negative, n.digits⟩ n.fraction none
        return (x, rest)) := by
    simp only [Query.readNumber, n.readDigits_text h, ok_bind, n.takeFraction_tail h,
      Query.takeExponent_of_noNameChar h.name]
  rw [numberOf_eq] at hNumber
  obtain ⟨c, s, hText, hc⟩ := n.starts_text
  have hQuote : ¬(c = '\'' ∨ c = '"') := by
    rintro (rfl | rfl) <;> exact absurd hc (by decide)
  rw [hText, List.cons_append] at hNumber ⊢
  simp only [Query.readLiteral, if_neg hQuote, if_pos hc, hNumber]
  cases n.number? <;> rfl

end Numeral

namespace Query

/-! ## A query of one filter -/

def filterQuery (body : List Char) : String := String.ofList ("$[?".toList ++ (body ++ [']']))

section OneFilter

variable {functions : FunctionTable} {body : List Char}

theorem compile_filterQuery {e : Expr} {rest : List Char}
    (h : readExpr functions.knows (body.length + 3) (body ++ [']']) = .ok (e, rest)) (hRest : skipBlank rest = [']']) :
    compile functions (filterQuery body) = .ok ⟨filterQuery body, [.filter e], functions⟩ := by
  simp [compile, filterQuery, readQuery, readSegments, readBracket, commaList, readSelector, skipBlank, isBlank, h, hRest,
    expectChar]

theorem compile_filterQuery_error {fault : Fault}
    (h : readExpr functions.knows (body.length + 3) (body ++ [']']) = .error fault) :
    compile functions (filterQuery body) = .error (fault.toError (body.length + 4)) := by
  simp [compile, filterQuery, readQuery, readSegments, readBracket, commaList, readSelector, skipBlank, isBlank, h]

end OneFilter

/-- What is wrong with the first operand is wrong with the expression. -/
theorem readDisjunction_error {primary : Reading Expr} {s r : List Char} {c : Char} {fault : Fault}
    (hs : skipBlank s = c :: r) (hc : c ≠ '!') (h : primary s = .error fault) :
    readDisjunction primary s = .error fault := by
  have hNegated (more : Nat) : readNegated (readCompared primary) more s = .error fault := by
    cases more with
    | zero => simp [readNegated, readCompared, h]
    | succ more => simp [readNegated, hs, hc, readCompared, h]
  simp [readDisjunction, readJoined, hNegated]

end Query

namespace Numeral

open Query (FunctionTable Reading Expr filterQuery)

variable (n : Numeral) {rest : List Char}

theorem starts_nonblank : ∃ c s, n.text = c :: s ∧ isBlank c = false ∧ c ∈ "'\"-0123456789".toList := by
  obtain ⟨c, s, hText, hc⟩ := n.starts_text
  have hSigns : ∀ c ∈ "-0123456789".toList, isBlank c = false ∧ c ∈ "'\"-0123456789".toList :=
    Query.forall_mem_of_all (by decide)
  have hSign : c ∈ "-0123456789".toList := by
    rcases hc with rfl | hc
    · decide
    · exact List.mem_cons_of_mem '-' (Query.isDigit_iff.1 hc)
  exact ⟨c, s, hText, hSigns c hSign⟩

/-- The numeral as an operand of a comparison. -/
theorem readPrimary_text (expr : Reading Expr) (known : String → Bool) {s : List Char} (h : Ends rest)
    (hs : skipBlank s = n.text ++ rest) :
    Query.readPrimary expr known s =
      match n.number? with
      | some x => .ok (.literal (.number x), rest)
      | none => .error (Query.invalidNumber n.text) := by
  obtain ⟨c, r, hText, -, hc⟩ := n.starts_nonblank
  have hRead := n.readLiteral_text h
  rw [hText, List.cons_append] at hs hRead
  rw [Query.readPrimary_eq_readLiteral hc hs, hRead, hText]
  cases n.number? <;> rfl

/-- The numeral as a whole filter. -/
theorem readExpr_text (known : String → Bool) (depth : Nat) :
    match n.number? with
    | some x => ∃ rest, Query.readExpr known (depth + 1) (n.text ++ [']']) = .ok (.literal (.number x), rest) ∧
        skipBlank rest = [']']
    | none => Query.readExpr known (depth + 1) (n.text ++ [']']) = .error (Query.invalidNumber n.text) := by
  obtain ⟨c, r, hText, hBlank, hc⟩ := n.starts_nonblank
  have hBang : c ≠ '!' := by
    rintro rfl
    exact absurd hc (by decide)
  have hs : skipBlank (n.text ++ [']']) = n.text ++ [']'] := by
    rw [hText, List.cons_append, Text.skipBlank_cons hBlank]
  have hCloses : Query.Closes [')', ']', ','] [']'] := ⟨[], Query.nil_mem_blanks, ']', by decide, [], rfl⟩
  cases hNumber : n.number? with
  | some x =>
    have hPrimary : Query.Reads (Query.readPrimary (Query.readExpr known depth) known) n.text (.literal (.number x))
        Query.EndsOperand := by
      intro s rest hs hRest
      have hRead := n.readPrimary_text (Query.readExpr known depth) known ⟨hRest.name, hRest.point⟩ hs
      rw [hNumber] at hRead
      exact ⟨rest, hRead, rfl⟩
    have hStart : Query.StartsWith (fun c => 3 ≤ 4 → c ≠ '!') n.text := ⟨c, r, hText, hBlank, fun _ => hBang⟩
    have hAt : Query.ReadsAt (Query.readPrimary (Query.readExpr known depth) known) 4 n.text (.literal (.number x)) :=
      hPrimary
    obtain ⟨rest, hRead, hRest⟩ := (hAt.weaken (Nat.zero_le 4) hStart).disjunction _ _ hs hCloses.endsDisjunction
    exact ⟨rest, hRead, hRest⟩
  | none =>
    have hRead := n.readPrimary_text (Query.readExpr known depth) known ends_bracket hs
    rw [hNumber] at hRead
    rw [hText, List.cons_append] at hs
    exact Query.readDisjunction_error (by rw [hText, List.cons_append, hs]) hBang hRead

/-- Wherever a filter has a literal, the numeral stands for the number, and so it does as a filter of its own. -/
structure IsReadInQueries (x : Number) : Prop where
  literal : ∀ rest, Ends rest → Query.readLiteral (n.text ++ rest) = .ok (.number x, rest)
  query : ∀ functions, Query.compile functions (filterQuery n.text) =
    .ok ⟨filterQuery n.text, [.filter (.literal (.number x))], functions⟩

structure IsRefusedInQueries : Prop where
  literal : ∀ rest, Ends rest → Query.readLiteral (n.text ++ rest) = .error (Query.invalidNumber n.text)
  query : ∀ functions, Query.compile functions (filterQuery n.text) = .error (.malformed (.number (String.ofList n.text)))

theorem isReadInQueries {x : Number} (h : n.number? = some x) : n.IsReadInQueries x where
  literal rest hRest := by rw [n.readLiteral_text hRest, h]
  query functions := by
    have hRead := n.readExpr_text functions.knows (n.text.length + 2)
    rw [h] at hRead
    obtain ⟨rest, hRead, hRest⟩ := hRead
    exact Query.compile_filterQuery hRead hRest

theorem isRefusedInQueries (h : n.number? = none) : n.IsRefusedInQueries where
  literal rest hRest := by rw [n.readLiteral_text hRest, h]
  query functions := by
    have hRead := n.readExpr_text functions.knows (n.text.length + 2)
    rw [h] at hRead
    exact Query.compile_filterQuery_error hRead

/-! ## In templates -/

/-- The token of a numeral. Only a whole number has to fit. -/
def token : Template.Checked Template.Token :=
  if n.fraction = [] then Template.intToken n.negative n.digits else .ok (.float n.real)

theorem readNumber_text (h : Ends rest) :
    Template.readNumber n.negative (n.digits ++ (n.tail ++ rest)) = do
      let t ← n.token
      return (t, rest) := by
  by_cases hFraction : n.fraction = []
  · have hEnd : ∀ i, (Template.Token.int i).EndsBefore rest := by
      refine fun _ => ⟨h.noDigit, ?_⟩
      rintro after rfl
      exact absurd rfl h.point
    simpa [tail, token, hFraction] using Template.readNumber_whole n.isDigits hEnd
  · have hRead : Template.readNumber n.negative (n.digits ++ '.' :: (n.fraction ++ rest)) =
        .ok (Template.floatToken n.negative n.digits n.fraction, rest) :=
      Template.readNumber_pointed n.isDigits ⟨hFraction, n.isFraction⟩ h.noDigit
    simp only [tail, token, if_neg hFraction, List.cons_append, hRead]
    rfl

/-- The numeral as the next token of a text. -/
theorem tokensWithin_text (fuel : Nat) (h : Ends rest) :
    Template.tokensWithin (fuel + 1) (n.text ++ rest) = do
      let t ← n.token
      let ts ← Template.tokensWithin fuel rest
      return t :: ts := by
  obtain ⟨c, s, hText, hBlank, hRead⟩ : ∃ c s, n.text = c :: s ∧ isBlank c = false ∧
      Template.readToken c (s ++ rest) = Template.readNumber n.negative (n.digits ++ n.tail ++ rest) :=
    Template.readToken_number n.isDigits n.tail rest
  rw [List.append_assoc, n.readNumber_text h] at hRead
  rw [hText, List.cons_append, Template.tokensWithin, Text.skipBlank_cons hBlank]
  simp only [hRead]
  cases n.token <;> rfl

theorem tokens_text :
    Template.tokens (String.ofList n.text) = do
      let t ← n.token
      return [t] := by
  obtain ⟨c, s, hText, -⟩ := n.starts_text
  have hRead := n.tokensWithin_text s.length ends_nil
  rw [List.append_nil] at hRead
  rw [Template.tokens, String.toList_ofList, hText, List.length_cons, ← hText, hRead]
  cases n.token with
  | error => rfl
  | ok t => cases s.length <;> rfl

/-- Wherever a template has a literal, the numeral stands for the value, and so it does as an expression of its own. -/
structure IsReadInTemplates (value : Json) : Prop where
  literal : ∃ t,
    (∀ fuel rest, Ends rest → Template.tokensWithin (fuel + 1) (n.text ++ rest) = do
      let ts ← Template.tokensWithin fuel rest
      return t :: ts) ∧
    ∀ ts, Template.readExpression (t :: ts) = .ok (.literal value, ts)
  expression : Template.Pipeline.ofText (String.ofList n.text) = .ok ⟨.literal value, []⟩

structure IsRefusedInTemplates : Prop where
  literal : ∀ fuel rest, Ends rest →
    Template.tokensWithin (fuel + 1) (n.text ++ rest) = .error (.number (String.ofList n.text))
  expression : Template.Pipeline.ofText (String.ofList n.text) = .error (.number (String.ofList n.text))

/-- A token that stands for a value is all that there is to read. -/
theorem isReadInTemplates_of_token {t : Template.Token} {value : Json} (ht : n.token = .ok t)
    (h : ∀ ts, Template.readExpression (t :: ts) = .ok (.literal value, ts)) : n.IsReadInTemplates value where
  literal := by
    refine ⟨t, fun fuel rest hRest => ?_, h⟩
    rw [n.tokensWithin_text fuel hRest, ht]
    rfl
  expression := by
    rw [Template.Pipeline.ofText, n.tokens_text, ht]
    simp [Template.Pipeline.ofTokens, Template.readCalls, h]

theorem isReadInTemplates {x : Number} (h : n.number? = some x) : n.IsReadInTemplates (.number x) := by
  by_cases hFraction : n.fraction = []
  · by_cases hFits : fitsInt64 (signed n.negative (decimalValue n.digits)) = true
    · apply n.isReadInTemplates_of_token (t := .int (signed n.negative (decimalValue n.digits)))
      · simp [token, hFraction, Template.intToken, hFits]
      · simp_all [number?, Template.readExpression, Json.ofInt]
    · simp [number?, hFraction, hFits] at h
  · apply n.isReadInTemplates_of_token (t := .float n.real)
    · simp [token, hFraction]
    · by_cases hFinite : n.real.isFinite = true
      · simp_all [number?, Template.readExpression, Json.ofBinary64]
      · simp [number?, hFraction, hFinite] at h

/-- A whole number that is too large is refused. -/
theorem isRefusedInTemplates (h : n.number? = none) (hFraction : n.fraction = []) : n.IsRefusedInTemplates := by
  have hToken : n.token = .error (.number (String.ofList n.text)) := by
    have hFits : ¬fitsInt64 (signed n.negative (decimalValue n.digits)) = true := by
      intro hFits
      simp [number?, hFraction, hFits] at h
    cases hSign : n.negative <;> simp_all [token, Template.intToken, text, tail, sign]
  constructor
  · intro fuel rest hRest
    rw [n.tokensWithin_text fuel hRest, hToken]
    rfl
  · rw [Template.Pipeline.ofText, n.tokens_text, hToken]
    rfl

/-- A number with a point is not refused, however large: beyond all finite ones it is taken for no value at all. -/
theorem isReadInTemplates_null (h : n.number? = none) (hFraction : n.fraction ≠ []) : n.IsReadInTemplates .null := by
  have hInfinite : ¬n.real.isFinite = true := by
    intro hFinite
    simp [number?, hFraction, hFinite] at h
  apply n.isReadInTemplates_of_token (t := .float n.real)
  · simp [token, hFraction]
  · simp [Template.readExpression, Json.ofBinary64, hInfinite]

/-! ## Both readers -/

/-- A numeral with a number stands for it in queries and in templates alike. Without one, it is refused in queries; in
templates a whole numeral is refused, and one with a point is taken for no value. -/
theorem numeral_readers_agree_unless_infinite :
    (∀ x, n.number? = some x → n.IsReadInQueries x ∧ n.IsReadInTemplates (.number x)) ∧
    (n.number? = none →
      n.IsRefusedInQueries ∧
      (n.fraction = [] → n.IsRefusedInTemplates) ∧
      (n.fraction ≠ [] → n.IsReadInTemplates .null)) := by
  constructor
  · intro x h
    exact ⟨n.isReadInQueries h, n.isReadInTemplates h⟩
  · intro h
    exact ⟨n.isRefusedInQueries h, n.isRefusedInTemplates h, n.isReadInTemplates_null h⟩

/-- A quarter below zero. -/
def minusQuarter : Numeral :=
  ⟨true, ['0'], ['2', '5'], ⟨List.cons_ne_nil _ _, Query.forall_mem_of_all (by decide)⟩,
    Query.forall_mem_of_all (by decide)⟩

theorem numeral_readers_agree_minusQuarter :
    minusQuarter.number? = some (.real (Binary64.ofDecimal true 25 (-2))) ∧
      minusQuarter.IsReadInQueries (.real (Binary64.ofDecimal true 25 (-2))) ∧
      minusQuarter.IsReadInTemplates (.number (.real (Binary64.ofDecimal true 25 (-2)))) :=
  have hNumber : minusQuarter.number? = some (.real (Binary64.ofDecimal true 25 (-2))) := by decide
  ⟨hNumber, (numeral_readers_agree_unless_infinite minusQuarter).1 _ hNumber⟩

/-- A one with 309 zeros, and a point with a zero after it. -/
def beyondFinite : Numeral :=
  ⟨false, '1' :: List.replicate 309 '0', ['0'], ⟨List.cons_ne_nil _ _, Query.forall_mem_of_all (by decide +kernel)⟩,
    Query.forall_mem_of_all (by decide)⟩

theorem numeral_readers_differ_beyondFinite :
    Query.compile Query.standardFunctions (filterQuery beyondFinite.text) =
        .error (.malformed (.number (String.ofList beyondFinite.text))) ∧
      Template.Pipeline.ofText (String.ofList beyondFinite.text) = .ok ⟨.literal .null, []⟩ :=
  have hNumber : beyondFinite.number? = none := by decide +kernel
  ⟨(beyondFinite.isRefusedInQueries hNumber).query _, (beyondFinite.isReadInTemplates_null hNumber (by decide)).expression⟩

end Numeral

end TemplateQuery
