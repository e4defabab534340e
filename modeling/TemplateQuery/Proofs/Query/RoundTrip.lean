import TemplateQuery.Pattern.Reader
import TemplateQuery.Proofs.Query.Operands
import TemplateQuery.Proofs.Query.Writing
import TemplateQuery.Query.Standard

/-!
# Queries are read back

Whatever spelling of a query is compiled, the result is that query: the reader never attaches an operand to the wrong
operator, never runs past a word and never loses a filter. One induction over segments and expressions shows this for
all texts of up to a length, which is also how deep the reader may nest.
-/
namespace TemplateQuery.Query

open Text (skipBlank)

variable {functions : FunctionTable}

/-! ## Induction -/

section Parts

variable {e : Expr} (h : e.IsReadBack functions)
include h

/-- An expression is read back where any may stand, if its text is shorter than the reader may nest. -/
theorem Expr.IsReadBack.anywhere {depth : Nat} {t : List Char} (ht : t ∈ e.spelling) (hDepth : t.length < depth) :
    Reads (readExpr functions.knows depth) t e EndsDisjunction := by
  obtain ⟨depth, rfl⟩ : ∃ d, depth = d + 1 := ⟨depth - 1, by omega⟩
  have hAt := h.reads depth t ht (by omega)
  exact (hAt.weaken (Nat.zero_le _) ((h.starts t ht).mono fun _ hc => hc.2)).disjunction

/-- An expression is read back where an operand of some strength is needed, with its parentheses if it has any. -/
theorem Expr.IsReadBack.atStrength {needed : Nat} (hNeeded : needed ≤ 4) {depth : Nat} {t : List Char}
    (ht : t ∈ e.atStrength needed e.spelling) (hDepth : t.length ≤ depth) :
    ReadsAt (readPrimary (readExpr functions.knows depth) functions.knows) needed t e := by
  rw [Expr.atStrength] at ht
  split at ht
  · rename_i hStrength
    exact (h.reads depth t ht hDepth).weaken hStrength ((h.starts t ht).mono fun _ hc => hc.2)
  · have hPrimary : ReadsAt (readPrimary (readExpr functions.knows depth) functions.knows) 4 t e := by
      refine reads_parenthesized ht h.starts fun u hu hLength => ?_
      exact h.anywhere hu (by omega)
    refine hPrimary.weaken hNeeded ?_
    exact starts_of_mul (starts_of_word (by decide) fun _ => by decide) ht

end Parts

theorem isReadBack_of_selector {s : Segment} (hSelected : s.selected = s)
    (hStart : ∀ t ∈ s.inside, StartsWith (fun _ => True) t)
    (hSelector : ∀ depth, ∀ t ∈ s.inside, t.length < depth →
      Reads (readSelector (readExpr functions.knows depth)) t s (Closes [')', ']', ','])) : s.IsReadBack functions where
  starts := hStart
  selector _ := hSelector
  bracket depth t ht hDepth b hb u r hs := by
    have hBracket : readBracket (readExpr functions.knows depth) u = .ok (joined [s], r) := by
      refine readBracket_spelled (List.cons_ne_nil s []) ht (by simpa using hStart) (fun x hx w hw hLength => ?_) hb hs
      obtain rfl := List.mem_singleton.1 hx
      exact hSelector depth w hw (by omega)
    rw [hBracket, hSelected]
    rfl

theorem isReadBack :
    Hereditary (fun s => s.Everywhere functions.writable → s.IsReadBack functions)
      (fun e => e.Everywhere functions.writable → e.IsReadBack functions) where
  child name h :=
    isReadBack_of_selector rfl (starts_of_inside_spelling.segment _ h) fun _ _ ht _ => reads_child ht
  index position h :=
    isReadBack_of_selector rfl (starts_of_inside_spelling.segment _ h) fun _ _ ht _ => reads_index h.2 ht
  wildcard h :=
    isReadBack_of_selector rfl (starts_of_inside_spelling.segment _ h) fun _ t ht _ => by
      obtain rfl : t = ['*'] := ht
      exact reads_wildcard
  slice start stop step h :=
    isReadBack_of_selector rfl (starts_of_inside_spelling.segment _ h) fun _ _ ht _ => reads_slice h.2 ht
  filter test ih h := by
    refine isReadBack_of_selector rfl (starts_of_inside_spelling.segment _ h) fun depth t ht hDepth => ?_
    simp only [Segment.inside, Language.mem_mul, mem_word] at ht
    obtain ⟨_, rfl, _, ⟨b, hb, u, hu, rfl⟩, rfl⟩ := ht
    simp only [List.cons_append, List.nil_append, List.length_append, List.length_cons] at hDepth ⊢
    exact reads_filter hb ((ih h.2).starts u hu).starts ((ih h.2).anywhere hu (by omega))
  descend selector ih h := by
    refine ⟨(ih h.2).starts, fun hPlain => absurd hPlain.2 (by simp [Segment.isDescent]), ?_⟩
    intro depth t ht hDepth b hb u r hs
    rw [(ih h.2).bracket depth t ht hDepth b hb u r hs]
    -- The bracket gives the selector itself, since that is no second descent.
    have hSelector : selector.isDescent = false := h.1.1
    cases selector with
    | descend => cases hSelector
    | _ => rfl
  union selectors ih h := by
    refine ⟨starts_of_inside_spelling.segment _ h, fun hPlain => absurd hPlain.1 (by simp [Segment.isUnion]), ?_⟩
    intro depth t ht hDepth b hb u r hs
    rw [Segment.inside, insides_eq_map] at ht
    have hEach := (everywhereOn_iff _ _).1 h.2
    obtain ⟨hTwo, hPlain⟩ : 2 ≤ selectors.length ∧ ∀ s ∈ selectors, s.IsPlain := h.1.1
    have hne : selectors ≠ [] := by
      rintro rfl
      simp at hTwo
    rw [readBracket_spelled hne ht (fun x hx => (ih x hx (hEach x hx)).starts) ?_ hb hs]
    · rw [joined_of_two hTwo]
      rfl
    · intro x hx w hw hLength
      exact (ih x hx (hEach x hx)).selector (hPlain x hx) depth w hw (by omega)
  literal value h := ⟨fun _ ht => starts_of_literal ht, fun _ _ ht _ => reads_literal h ht⟩
  path root segments ih h := by
    refine ⟨starts_of_inside_spelling.expr _ h, fun depth t ht hDepth => ?_⟩
    obtain ⟨_, rfl, u, hu, rfl⟩ := Language.mem_mul.1 ht
    have hEach := (everywhereOn_iff _ _).1 h.2
    rw [List.length_append] at hDepth
    rw [List.singleton_append]
    exact reads_path (fun s hs => ih s hs (hEach s hs)) hu (by omega)
  call name arguments ih h := by
    refine ⟨starts_of_inside_spelling.expr _ h, fun depth t ht hDepth => ?_⟩
    rw [Expr.spelling, spellings_eq_map] at ht
    obtain ⟨_, rfl, u, hu, rfl⟩ := Language.mem_mul.1 ht
    obtain ⟨b, hb, v, hv, rfl⟩ := Language.mem_mul.1 hu
    have hEach := (everywhereIn_iff _ _).1 h.2
    simp only [List.length_append] at hDepth
    refine reads_call h.1.2 h.1.1 hb hv (fun e he => (ih e he (hEach e he)).starts) fun e he w hw hLength => ?_
    exact (ih e he (hEach e he)).anywhere hw (by omega)
  not operand ih h := by
    refine ⟨starts_of_inside_spelling.expr _ h, fun depth t ht hDepth => ?_⟩
    simp only [Expr.spelling, Language.mem_mul, mem_word] at ht
    obtain ⟨_, rfl, _, ⟨b, hb, u, hu, rfl⟩, rfl⟩ := ht
    simp only [List.cons_append, List.nil_append, List.length_append, List.length_cons] at hDepth ⊢
    have hOperand := (ih h.2).atStrength (by decide) hu (show u.length ≤ depth by omega)
    exact ReadsNegated.not hOperand ((starts_of_atStrength (ih h.2).starts hu).ne (by decide)) hb
  and left right ihl ihr h := by
    refine ⟨starts_of_inside_spelling.expr _ h, fun depth t ht hDepth => ?_⟩
    obtain ⟨l, hl, b, hb, b', hb', r, hr, rfl⟩ := eq_of_mem_binary ht
    simp only [List.cons_append, List.nil_append, List.length_append, List.length_cons] at hDepth ⊢
    have hLeft := (ihl h.2.1).atStrength (by decide) hl (show l.length ≤ depth by omega)
    have hRight := (ihr h.2.2).atStrength (by decide) hr (show r.length ≤ depth by omega)
    have hStart := starts_of_atStrength (ihr h.2.2).starts hr
    exact ReadsChain.snoc hLeft (ReadsNegated.reads hRight) (by decide) hb hb' (endsComparison_and hb) hStart.starts
  or left right ihl ihr h := by
    refine ⟨starts_of_inside_spelling.expr _ h, fun depth t ht hDepth => ?_⟩
    obtain ⟨l, hl, b, hb, b', hb', r, hr, rfl⟩ := eq_of_mem_binary ht
    simp only [List.cons_append, List.nil_append, List.length_append, List.length_cons] at hDepth ⊢
    have hLeft := (ihl h.2.1).atStrength (by decide) hl (show l.length ≤ depth by omega)
    have hRight := (ihr h.2.2).atStrength (by decide) hr (show r.length ≤ depth by omega)
    have hStart := starts_of_atStrength (ihr h.2.2).starts hr
    exact ReadsChain.snoc hLeft (ReadsAt.conjunction hRight) (by decide) hb hb' (endsConjunction_or hb) hStart.starts
  compare left op right ihl ihr h := by
    refine ⟨starts_of_inside_spelling.expr _ h, fun depth t ht hDepth => ?_⟩
    obtain ⟨l, hl, b, hb, b', hb', r, hr, rfl⟩ := eq_of_mem_binary ht
    simp only [List.length_append] at hDepth
    have hLeft := (ihl h.2.1).atStrength (by decide) hl (show l.length ≤ depth by omega)
    have hRight := (ihr h.2.2).atStrength (by decide) hr (show r.length ≤ depth by omega)
    have hStart := starts_of_atStrength (ihr h.2.2).starts hr
    exact (reads_compared hLeft hRight hb hb' (hStart.ne (by decide))).mono fun _ => EndsComparison.toEndsOperand

/-! ## Queries -/

theorem readQuery_spelled {segments : List Segment} (h : EverywhereOn functions.writable segments) {s : List Char}
    (hs : s ∈ querySpelling segments) : readQuery functions.knows s = .ok segments := by
  simp only [querySpelling, Language.mem_mul, mem_word] at hs
  obtain ⟨b, hb, _, ⟨_, rfl, _, ⟨t, ht, b', hb', rfl⟩, rfl⟩, rfl⟩ := hs
  have hEnd : skipBlank b' = [] := by
    rw [← List.append_nil b', Text.skipBlank_append hb']
    rfl
  have hEach := (everywhereOn_iff _ _).1 h
  have hLength : t.length ≤ (t ++ b').length := by
    rw [List.length_append]
    omega
  have hRead : readSegments (readExpr functions.knows (t ++ b').length) (t ++ b').length (t ++ b') = .ok (segments, b') :=
    readSegments_spelled (fun s hs => isReadBack.segment s (hEach s hs)) ht hLength hLength (by simp [hEnd])
  rw [readQuery, Text.skipBlank_append hb, List.singleton_append, Text.skipBlank_cons (by decide)]
  simp only [hRead, ok_bind, hEnd]
  rfl

/-- A query that can be spelled has a spelling, and each of its spellings is compiled to it: white space, quotes, escapes
and the parentheses that the binding of the operators makes necessary leave no trace. -/
theorem compile_of_mem_querySpelling (functions : FunctionTable) {segments : List Segment}
    (h : EverywhereOn functions.writable segments) :
    (writeQuery segments).toList ∈ querySpelling segments ∧
      ∀ source : String, source.toList ∈ querySpelling segments →
        compile functions source = .ok ⟨source, segments, functions⟩ := by
  refine ⟨writeQuery_mem h, fun source hSource => ?_⟩
  simp only [compile, readQuery_spelled h hSource]

/-- The items that are new or have no tags, and cost less than ten. -/
def cheapItems : List Segment :=
  [.child "items", .filter (.and
    (.or (.path .current [.child "new"])
      (.not (.compare (.call "length" [.path .current [.child "tags"]]) .greater (.literal (.number (.int 0))))))
    (.not (.compare (.path .current [.child "price"]) .greaterEqual (.literal (.number (.int 10))))))]

theorem compile_cheapItems :
    EverywhereOn standardFunctions.writable cheapItems ∧
      writeQuery cheapItems =
        "$['items'][?(@['new'] || !length(@['tags']) > 0) && !@['price'] >= 10]" ∧
      compile standardFunctions (writeQuery cheapItems) = .ok ⟨writeQuery cheapItems, cheapItems, standardFunctions⟩ := by
  have hLength : IsFunctionName "length" :=
    ⟨⟨⟨'l', _, rfl, by decide⟩, forall_mem_of_all (by decide), by decide⟩, by decide⟩
  have hKnown : standardFunctions.knows "length" = true := by decide
  have hZero : fitsInt64 0 = true := by decide
  have hTen : fitsInt64 10 = true := by decide
  have hWritable : EverywhereOn standardFunctions.writable cheapItems := by
    simp [cheapItems, EverywhereOn, Segment.Everywhere, Expr.Everywhere, EverywhereIn, FunctionTable.writable,
      Segment.WellShaped, Segment.Fits, Expr.Writable, IsLiteral, IsScalar, hLength, hKnown, hZero, hTen]
  have hTheorem := compile_of_mem_querySpelling standardFunctions hWritable
  exact ⟨hWritable, by decide, hTheorem.2 _ hTheorem.1⟩

end TemplateQuery.Query
