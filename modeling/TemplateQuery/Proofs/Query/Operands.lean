import TemplateQuery.Proofs.Query.Selectors

/-!
# Reading spelled operands

What takes part in a comparison is a path, a literal, a call or an expression in parentheses. Each is read back from its
spellings if the segments and expressions inside it are, for which the reader may nest one level less.
-/
namespace TemplateQuery.Query

open Text (isBlank skipBlank isAlphabetic)

variable {functions : FunctionTable}

/-! ## What is shown of segments and expressions -/

/-- The selector that a segment has between its brackets. -/
def Segment.selected : Segment → Segment
  | .descend selector => selector
  | s => s

/-- The bracket of the segment is read back, and so is the selector among others if it can stand there. -/
structure Segment.IsReadBack (functions : FunctionTable) (s : Segment) : Prop where
  starts : ∀ t ∈ s.inside, StartsWith (fun _ => True) t
  selector : s.IsPlain → ∀ depth, ∀ t ∈ s.inside, t.length < depth →
    Reads (readSelector (readExpr functions.knows depth)) t s (Closes [')', ']', ','])
  bracket : ∀ depth, ∀ t ∈ s.inside, t.length < depth → ∀ b ∈ blanks, ∀ u r, skipBlank u = t ++ (b ++ ']' :: r) →
    readBracket (readExpr functions.knows depth) u = .ok (s.selected, r)

/-- The expression is read back by the reader for operators of its strength. -/
structure Expr.IsReadBack (functions : FunctionTable) (e : Expr) : Prop where
  starts : ∀ t ∈ e.spelling, StartsOperand e.strength t
  reads : ∀ depth, ∀ t ∈ e.spelling, t.length ≤ depth →
    ReadsAt (readPrimary (readExpr functions.knows depth) functions.knows) e.strength t e

/-! ## Paths -/

/-- A path is followed up to where no other segment starts. -/
theorem readSegments_spelled {segments : List Segment} (hReads : ∀ s ∈ segments, s.IsReadBack functions)
    {depth more : Nat} {t rest : List Char} (ht : t ∈ pathSpelling segments) (hDepth : t.length ≤ depth)
    (hMore : t.length ≤ more) (hRest : ∀ c ∈ (skipBlank rest).head?, c ≠ '.' ∧ c ≠ '[') :
    readSegments (readExpr functions.knows depth) more (t ++ rest) = .ok (segments, rest) := by
  induction segments generalizing t more with
  | nil =>
    obtain rfl : t = [] := ht
    rw [List.nil_append]
    cases more with
    | zero => rfl
    | succ more =>
      rw [readSegments]
      split
      · rename_i r hPoint
        exact absurd rfl (hRest '.' (by rw [hPoint]; rfl)).1
      · rename_i r hBracket
        exact absurd rfl (hRest '[' (by rw [hBracket]; rfl)).2
      · rfl
  | cons s segments ih =>
    simp only [pathSpelling, Language.mem_mul, mem_word] at ht
    obtain ⟨b, hb, _, ⟨_, rfl, _, ⟨w, hw, v, hv, rfl⟩, rfl⟩, rfl⟩ := ht
    obtain ⟨b₁, hb₁, u, hu, b₂, hb₂, rfl⟩ := eq_of_mem_enclosed hw
    simp only [List.length_append, List.length_cons] at hDepth hMore
    obtain ⟨more, rfl⟩ : ∃ m, more = m + 1 := ⟨more - 1, by omega⟩
    obtain ⟨hS, hSegments⟩ := List.forall_mem_cons.1 hReads
    have hPath := ih hSegments hv (by omega) (show v.length ≤ more by omega)
    have hBracket := hS.bracket depth u hu (by omega) b₂ hb₂ (b₁ ++ (u ++ (b₂ ++ ']' :: (v ++ rest)))) (v ++ rest)
      ((hS.starts u hu).skipBlank_append hb₁ _)
    simp only [List.append_assoc, List.cons_append, List.nil_append]
    rw [readSegments, Text.skipBlank_append hb]
    cases s with
    | descend selector =>
      simp only [Segment.mark, List.cons_append, List.nil_append]
      rw [Text.skipBlank_cons (by decide)]
      simp [readDotted, readDescent, hBracket, hPath, Segment.selected]
    | _ =>
      simp only [Segment.mark, List.nil_append]
      rw [Text.skipBlank_cons (by decide)]
      simp [hBracket, hPath, Segment.selected]

theorem startsWithNameChar_path {segments : List Segment} {t rest : List Char} (ht : t ∈ pathSpelling segments)
    (hRest : startsWithNameChar rest = false) : startsWithNameChar (t ++ rest) = false := by
  cases segments with
  | nil =>
    obtain rfl : t = [] := ht
    exact hRest
  | cons s segments =>
    simp only [pathSpelling, Language.mem_mul, mem_word] at ht
    obtain ⟨b, hb, _, ⟨_, rfl, _, ⟨w, hw, v, -, rfl⟩, rfl⟩, rfl⟩ := ht
    obtain ⟨b₁, -, u, -, b₂, -, rfl⟩ := eq_of_mem_enclosed hw
    rw [List.append_assoc]
    refine startsWithNameChar_blanks hb ?_
    cases s with
    | descend selector => exact (by decide : isNameChar '.' = false)
    | _ => exact (by decide : isNameChar '[' = false)

/-! ## Operands -/

section Operands

variable {expr : Reading Expr} {known : String → Bool}

theorem reads_path {root : Root} {segments : List Segment} (hReads : ∀ s ∈ segments, s.IsReadBack functions)
    {depth : Nat} {t : List Char} (ht : t ∈ pathSpelling segments) (hDepth : t.length ≤ depth) :
    Reads (readPrimary (readExpr functions.knows depth) known) (root.mark :: t) (.path root segments) EndsOperand := by
  intro s rest hs hRest
  rw [List.cons_append] at hs
  have hMore : t.length ≤ (t ++ rest).length := by
    rw [List.length_append]
    omega
  have hPath := readSegments_spelled hReads ht hDepth hMore hRest.path
  have hName := startsWithNameChar_path ht hRest.name
  have hRead : readPath (readExpr functions.knows depth) root (t ++ rest) = .ok (.path root segments, rest) := by
    rw [readPath, hPath]
    rfl
  refine ⟨rest, ?_, rfl⟩
  cases root <;> simp [readPrimary, hs, Root.mark, hName, hRead]

/-- The reader tries a literal where no other operand starts. -/
theorem readPrimary_eq_readLiteral {c : Char} (hc : c ∈ "'\"-0123456789".toList) {s r : List Char}
    (hs : skipBlank s = c :: r) :
    readPrimary expr known s = do
      let (x, rest) ← readLiteral (c :: r)
      return (.literal x, rest) := by
  have hSigns : ∀ c ∈ "'\"-0123456789".toList,
      c ≠ '(' ∧ c ≠ '@' ∧ c ≠ '$' ∧ c ≠ '_' ∧ c ≠ '[' ∧ isAlphabetic c = false :=
    forall_mem_of_all (by decide)
  obtain ⟨h₁, h₂, h₃, h₄, h₅, h₆⟩ := hSigns c hc
  simp [readPrimary, hs, h₁, h₂, h₃, h₄, h₅, h₆]

theorem readPrimary_literal {c : Char} (hc : c ∈ "'\"-0123456789".toList) {s r rest : List Char} {value : Json}
    (hs : skipBlank s = c :: r) (hRead : readLiteral (c :: r) = .ok (value, rest)) :
    readPrimary expr known s = .ok (.literal value, rest) := by
  rw [readPrimary_eq_readLiteral hc hs, hRead]
  rfl

/-- A word is read as one, unless it is the mark of the extra value. -/
theorem readPrimary_word {name : String} (hName : IsWord name) {s rest : List Char}
    (hs : skipBlank s = name.toList ++ rest) : readPrimary expr known s = readWord expr known (name.toList ++ rest) := by
  obtain ⟨c, w, hFirst, hc⟩ := hName.first
  have hSigns : ∀ c ∈ ['(', '@', '$', '['], ¬(isAlphabetic c = true ∨ c = '_') :=
    forall_mem_of_all (by decide)
  have hc' : c ∉ ['(', '@', '$', '['] := fun hSign => hSigns c hSign hc
  simp only [List.mem_cons, List.not_mem_nil, or_false, not_or] at hc'
  -- An underscore that starts a longer word is no path.
  have hNext : ¬(c = '_' ∧ (!startsWithNameChar (w ++ rest)) = true) := by
    rintro ⟨rfl, hNext⟩
    cases w with
    | nil => exact hName.notExtra (String.toList_injective hFirst)
    | cons d w =>
      have hd := hName.chars d (by simp [hFirst])
      simp [startsWithNameChar, hd] at hNext
  rw [hFirst, List.cons_append] at hs ⊢
  simp only [readPrimary, hs, hc', hNext, hc, if_false, if_true]

theorem IsWord.readName {name : String} (h : IsWord name) {rest : List Char} (hRest : startsWithNameChar rest = false) :
    readName (name.toList ++ rest) = .ok (name, rest) := by
  have hne : name.toList ≠ [] := by
    obtain ⟨c, w, hFirst, -⟩ := h.first
    simp [hFirst]
  rw [readName_append hne h.chars hRest, String.ofList_toList]

theorem isWord_of_constant {name : String} (h : name ∈ ["true", "false", "null"]) : IsWord name := by
  simp only [List.mem_cons, List.not_mem_nil, or_false] at h
  rcases h with rfl | rfl | rfl
  · exact ⟨⟨'t', _, rfl, by decide⟩, forall_mem_of_all (by decide), by decide⟩
  · exact ⟨⟨'f', _, rfl, by decide⟩, forall_mem_of_all (by decide), by decide⟩
  · exact ⟨⟨'n', _, rfl, by decide⟩, forall_mem_of_all (by decide), by decide⟩

theorem reads_constant {name : String} {value : Json}
    (h : (name, value) ∈ [("true", .bool true), ("false", .bool false), ("null", .null)]) :
    Reads (readPrimary expr known) name.toList (.literal value) EndsOperand := by
  intro s rest hs hRest
  have hName : IsWord name := isWord_of_constant (List.mem_map_of_mem (f := Prod.fst) h)
  refine ⟨rest, ?_, rfl⟩
  rw [readPrimary_word hName hs, readWord, hName.readName hRest.name]
  simp only [List.mem_cons, List.not_mem_nil, or_false, Prod.mk.injEq] at h
  rcases h with ⟨rfl, rfl⟩ | ⟨rfl, rfl⟩ | ⟨rfl, rfl⟩ <;> rfl

theorem reads_scalar {value : Json} (hValue : IsScalar value) {t : List Char} (ht : t ∈ scalarSpelling value) :
    Reads (readPrimary expr known) t (.literal value) EndsOperand := by
  cases value with
  | null =>
    obtain rfl : t = "null".toList := ht
    exact reads_constant (by simp)
  | bool b =>
    cases b with
    | true =>
      obtain rfl : t = "true".toList := ht
      exact reads_constant (by simp)
    | false =>
      obtain rfl : t = "false".toList := ht
      exact reads_constant (by simp)
  | number n =>
    cases n with
    | int i =>
      intro s rest hs hRest
      have hRead := readLiteral_scalar hValue ht hRest.name hRest.point
      obtain ⟨c, t, rfl, hc⟩ := starts_of_numeral ht
      have hDigits : ∀ c ∈ "0123456789".toList, c ∈ "'\"-0123456789".toList :=
        forall_mem_of_all (by decide)
      have hc' : c ∈ "'\"-0123456789".toList := by
        rcases hc with rfl | hc
        · decide
        · exact hDigits c (isDigit_iff.1 hc)
      exact ⟨rest, readPrimary_literal hc' hs hRead, rfl⟩
    | real x => exact ht.elim
  | string x =>
    intro s rest hs hRest
    have hRead := readLiteral_scalar hValue ht hRest.name hRest.point
    obtain ⟨quote, t, hQuote, rfl, -⟩ := readString_quoted ht
    refine ⟨rest, readPrimary_literal ?_ hs hRead, rfl⟩
    rcases hQuote with rfl | rfl <;> decide
  | array items => exact ht.elim
  | object members => exact ht.elim

theorem readList_spelled {items : List Json} (hItems : ∀ x ∈ items, IsScalar x) {u b r s : List Char}
    (hu : u ∈ commaSeparated (items.map scalarSpelling)) (hb : b ∈ blanks)
    (hs : skipBlank s = skipBlank (u ++ (b ++ ']' :: r))) : readList s = .ok (.array items, r) := by
  have hStarts : ∀ x ∈ items, ∀ w ∈ scalarSpelling x, StartsWith (· ≠ ']') w :=
    fun x _ w hw => (starts_of_scalar hw).ne (by decide)
  have hItem : ∀ x ∈ items, ∀ w ∈ scalarSpelling x, w.length ≤ u.length →
      Reads (fun s => readLiteral (skipBlank s)) w x (Closes [')', ']', ',']) := by
    intro x hx w hw _ s rest hs hRest
    have hEnds := hRest.endsDisjunction.toEndsOperand
    refine ⟨rest, ?_, rfl⟩
    simp only [hs]
    exact readLiteral_scalar (hItems x hx) hw hEnds.name hEnds.point
  rcases commaList_or_closed (by decide) hu hStarts hItem hb hs with
    ⟨rfl, hSkip⟩ | ⟨c, u, rest, hSkip, hc, hRead, hClose⟩
  · rw [readList, hSkip]
    rfl
  · rw [readList, hSkip]
    split
    · rename_i r' hEmpty
      exact absurd (List.cons.inj hEmpty).1 hc
    · simp only [hRead, ok_bind, hClose]
      rfl

theorem reads_literal {value : Json} (hValue : IsLiteral value) {t : List Char} (ht : t ∈ literalSpelling value) :
    Reads (readPrimary expr known) t (.literal value) EndsOperand := by
  unfold literalSpelling at ht
  split at ht
  · intro s rest hs hRest
    obtain ⟨b, hb, u, hu, b', hb', rfl⟩ := eq_of_mem_enclosed ht
    simp only [List.cons_append, List.append_assoc, List.nil_append] at hs
    have hList := readList_spelled hValue hu hb' (Text.skipBlank_append hb (u ++ (b' ++ ']' :: rest)))
    exact ⟨rest, by simp [readPrimary, hs, hList], rfl⟩
  · rename_i hScalar
    refine reads_scalar ?_ ht
    unfold IsLiteral at hValue
    split at hValue
    · exact absurd rfl (hScalar _)
    · exact hValue

/-- Arguments are read back if each of them is. -/
theorem readCall_spelled {name : String} {arguments : List Expr} {u b r s : List Char}
    (hu : u ∈ commaSeparated (arguments.map Expr.spelling)) (hb : b ∈ blanks)
    (hStarts : ∀ e ∈ arguments, ∀ w ∈ e.spelling, StartsOperand e.strength w)
    (hArguments : ∀ e ∈ arguments, ∀ w ∈ e.spelling, w.length ≤ u.length → Reads expr w e EndsDisjunction)
    (hs : skipBlank s = skipBlank (u ++ (b ++ ')' :: r))) : readCall expr name s = .ok (.call name arguments, r) := by
  have hStarts' : ∀ e ∈ arguments, ∀ w ∈ e.spelling, StartsWith (· ≠ ')') w :=
    fun e he w hw => (hStarts e he w hw).ne (by decide)
  have hArgument : ∀ e ∈ arguments, ∀ w ∈ e.spelling, w.length ≤ u.length → Reads expr w e (Closes [')', ']', ',']) :=
    fun e he w hw hLength => (hArguments e he w hw hLength).mono fun _ => Closes.endsDisjunction
  rcases commaList_or_closed (by decide) hu hStarts' hArgument hb hs with
    ⟨rfl, hSkip⟩ | ⟨c, u, rest, hSkip, hc, hRead, hClose⟩
  · rw [readCall, hSkip]
    rfl
  · rw [readCall, hSkip]
    split
    · rename_i r' hEmpty
      exact absurd (List.cons.inj hEmpty).1 hc
    · simp only [hRead, ok_bind, hClose]
      rfl

theorem reads_call {name : String} (hName : IsFunctionName name) (hKnown : known name = true) {arguments : List Expr}
    {b t : List Char} (hb : b ∈ blanks) (ht : t ∈ enclosed '(' ')' (commaSeparated (arguments.map Expr.spelling)))
    (hStarts : ∀ e ∈ arguments, ∀ w ∈ e.spelling, StartsOperand e.strength w)
    (hArguments : ∀ e ∈ arguments, ∀ w ∈ e.spelling, w.length + 2 ≤ t.length → Reads expr w e EndsDisjunction) :
    Reads (readPrimary expr known) (name.toList ++ (b ++ t)) (.call name arguments) EndsOperand := by
  intro s rest hs hRest
  obtain ⟨b₁, hb₁, u, hu, b₂, hb₂, rfl⟩ := eq_of_mem_enclosed ht
  simp only [List.append_assoc, List.cons_append, List.nil_append] at hs
  have hArgument : ∀ e ∈ arguments, ∀ w ∈ e.spelling, w.length ≤ u.length → Reads expr w e EndsDisjunction := by
    intro e he w hw hLength
    refine hArguments e he w hw ?_
    simp only [List.length_cons, List.length_append]
    omega
  have hCall : readCall expr name (b₁ ++ (u ++ (b₂ ++ ')' :: rest))) = .ok (.call name arguments, rest) :=
    readCall_spelled hu hb₂ hStarts hArgument (Text.skipBlank_append hb₁ _)
  have hConstant := hName.notConstant
  simp only [List.mem_cons, List.not_mem_nil, or_false, not_or] at hConstant
  obtain ⟨hTrue, hFalse, hNull⟩ := hConstant
  have hParenthesis : startsWithNameChar (b ++ '(' :: (b₁ ++ (u ++ (b₂ ++ ')' :: rest)))) = false :=
    startsWithNameChar_blanks hb (by decide : isNameChar '(' = false)
  refine ⟨rest, ?_, rfl⟩
  rw [readPrimary_word hName.toIsWord hs, readWord, hName.toIsWord.readName hParenthesis]
  simp only [ok_bind, hTrue, hFalse, hNull, if_false]
  rw [Text.skipBlank_append_cons hb (by decide)]
  simp [hKnown, hCall]

/-- In parentheses any expression is an operand. -/
theorem reads_parenthesized {e : Expr} {t : List Char} (ht : t ∈ enclosed '(' ')' e.spelling)
    (hStart : ∀ u ∈ e.spelling, StartsOperand e.strength u)
    (h : ∀ u ∈ e.spelling, u.length + 2 ≤ t.length → Reads expr u e EndsDisjunction) :
    Reads (readPrimary expr known) t e EndsOperand := by
  intro s rest hs hRest
  obtain ⟨b, hb, u, hu, b', hb', rfl⟩ := eq_of_mem_enclosed ht
  simp only [List.cons_append, List.append_assoc, List.nil_append] at hs
  have hInside : Reads expr u e EndsDisjunction := by
    refine h u hu ?_
    simp only [List.length_cons, List.length_append]
    omega
  have hClosed : Closes [')', ']', ','] (b' ++ ')' :: rest) := ⟨b', hb', ')', by decide, rest, rfl⟩
  obtain ⟨rest', hRead, hLeft⟩ := hInside _ _ ((hStart u hu).skipBlank_append hb _) hClosed.endsDisjunction
  rw [Text.skipBlank_append_cons hb' (by decide)] at hLeft
  refine ⟨rest, ?_, rfl⟩
  simp [readPrimary, hs, readParenthesized, hRead, expectChar, hLeft]

end Operands

end TemplateQuery.Query
