import Mathlib.Tactic.SplitIfs
import TemplateQuery.Proofs.Query.Everywhere
import TemplateQuery.Proofs.Steps
import TemplateQuery.Query.Selection
import TemplateQuery.Query.Standard

/-!
# Why an evaluation fails

Selecting nodes never fails by itself. Whatever error comes out of an evaluation is an error of a function that the
query calls, so what the errors of these functions have in common, the errors of all evaluations have.
-/
namespace TemplateQuery.Query

/-- A result that is an error of some kind, if it is an error at all. -/
def FailsOnly (kind : Error → Prop) {α : Type} (x : Except Error α) : Prop := ∀ e, x = .error e → kind e

section Results

variable {kind : Error → Prop} {α β : Type}

theorem failsOnly_ok (a : α) : FailsOnly kind (.ok a) := by
  intro e h
  cases h

theorem failsOnly_error {e : Error} (h : kind e) : FailsOnly kind (.error e : Except Error α) := by
  intro e' h'
  cases h'
  exact h

theorem FailsOnly.bind {x : Except Error α} {f : α → Except Error β} (hx : FailsOnly kind x)
    (hf : ∀ a, FailsOnly kind (f a)) : FailsOnly kind (x >>= f) := by
  intro e h
  rcases bind_eq_error.1 h with hx' | ⟨a, -, ha⟩
  · exact hx e hx'
  · exact hf a e ha

theorem failsOnly_gather {f : α → Except Error (List β)} (hf : ∀ a, FailsOnly kind (f a)) (xs : List α) :
    FailsOnly kind (gather f xs) := by
  induction xs with
  | nil => exact failsOnly_ok _
  | cons x xs ih => exact (hf x).bind fun _ => ih.bind fun _ => failsOnly_ok _

theorem failsOnly_keep {test : α → Except Error Bool} (hTest : ∀ a, FailsOnly kind (test a)) (xs : List α) :
    FailsOnly kind (keep test xs) := by
  induction xs with
  | nil => exact failsOnly_ok _
  | cons x xs ih => exact (hTest x).bind fun _ => ih.bind fun _ => failsOnly_ok _

end Results

section Evaluation

variable {kind : Error → Prop} (scope : Scope)

theorem failsOnly_selectEach {selectors : List Segment}
    (h : ∀ s ∈ selectors, ∀ node, FailsOnly kind (select scope s node)) (node : Json) :
    FailsOnly kind (selectEach scope selectors node) := by
  induction selectors with
  | nil => exact failsOnly_ok _
  | cons s rest ih =>
    rw [List.forall_mem_cons] at h
    exact (h.1 node).bind fun _ => (ih h.2).bind fun _ => failsOnly_ok _

theorem failsOnly_follow {segments : List Segment}
    (h : ∀ s ∈ segments, ∀ node, FailsOnly kind (select scope s node)) (nodes : List Json) :
    FailsOnly kind (follow scope segments nodes) := by
  induction segments generalizing nodes with
  | nil => exact failsOnly_ok _
  | cons s rest ih =>
    rw [List.forall_mem_cons] at h
    exact (failsOnly_gather h.1 nodes).bind (ih h.2)

theorem failsOnly_evaluateAll {exprs : List Expr}
    (h : ∀ e ∈ exprs, ∀ current, FailsOnly kind (evaluate scope e current)) (current : Json) :
    FailsOnly kind (evaluateAll scope exprs current) := by
  induction exprs with
  | nil => exact failsOnly_ok _
  | cons e rest ih =>
    rw [List.forall_mem_cons] at h
    exact (h.1 current).bind fun _ => (ih h.2).bind fun _ => failsOnly_ok _

/-- The errors of an evaluation are of a kind if the errors of all calls in it are. -/
theorem failsOnly_evaluation {allowed : String → Prop}
    (hCall : ∀ name, allowed name → ∀ operands, FailsOnly kind (scope.functions.call name operands)) :
    Hereditary (fun s => s.Everywhere (callsOnly allowed) → ∀ node, FailsOnly kind (select scope s node))
      (fun e => e.Everywhere (callsOnly allowed) → ∀ current, FailsOnly kind (evaluate scope e current)) where
  child _ _ _ := failsOnly_ok _
  index _ _ _ := failsOnly_ok _
  wildcard _ _ := failsOnly_ok _
  descend _ ih h node := failsOnly_gather (ih h.2) _
  slice _ _ _ _ _ := failsOnly_ok _
  union selectors ih h node := by
    have hAll := (everywhereOn_iff _ _).1 h.2
    exact failsOnly_selectEach scope (fun s hs => ih s hs (hAll s hs)) node
  filter _ ih h node := failsOnly_keep (fun child => (ih h.2 child).bind fun _ => failsOnly_ok _) _
  literal _ _ _ := failsOnly_ok _
  path root segments ih h current := by
    have hAll := (everywhereOn_iff _ _).1 h.2
    exact (failsOnly_follow scope (fun s hs => ih s hs (hAll s hs)) _).bind fun _ => failsOnly_ok _
  call name arguments ih h current := by
    have hAll := (everywhereIn_iff _ _).1 h.2
    refine (failsOnly_evaluateAll scope (fun e he => ih e he (hAll e he)) current).bind fun operands => ?_
    exact (hCall name h.1 operands).bind fun _ => failsOnly_ok _
  not _ ih h current := (ih h.2 current).bind fun _ => failsOnly_ok _
  and left right ihl ihr h current := by
    refine (ihl h.2.1 current).bind fun x => ?_
    by_cases hx : x.isTruthy
    · simpa [hx] using (ihr h.2.2 current).bind fun _ => failsOnly_ok _
    · simpa [hx] using failsOnly_ok _
  or left right ihl ihr h current := by
    refine (ihl h.2.1 current).bind fun x => ?_
    by_cases hx : x.isTruthy
    · simpa [hx] using failsOnly_ok _
    · simpa [hx] using (ihr h.2.2 current).bind fun _ => failsOnly_ok _
  compare _ _ _ ihl ihr h current :=
    (ihl h.2.1 current).bind fun _ => (ihr h.2.2 current).bind fun _ => failsOnly_ok _

end Evaluation

/-- What the errors of a query have in common if the errors of the functions it calls have it. -/
theorem Compiled.failsOnly_run {kind : Error → Prop} {allowed : String → Prop} (query : Compiled)
    (h : EverywhereOn (callsOnly allowed) query.segments)
    (hCall : ∀ name, allowed name → ∀ operands, FailsOnly kind (query.functions.call name operands))
    (document extra : Json) : FailsOnly kind (query.run document extra) := by
  refine failsOnly_follow _ (fun s hs => ?_) _
  exact (failsOnly_evaluation ⟨document, extra, query.functions⟩ hCall).segment s ((everywhereOn_iff _ _).1 h s hs)

/-! ## Functions -/

/-- A call of a function that is in the table fails as the function does. -/
theorem FunctionTable.failsOnly_call (table : FunctionTable) (name : String) (known : table.knows name = true)
    (operands : List Operand) :
    FailsOnly (fun e => ∃ name function operands, Dict.get? table name = some function ∧ function operands = .error e)
      (table.call name operands) := by
  obtain ⟨function, hFunction⟩ := Option.isSome_iff_exists.1 known
  intro e h
  rw [call, hFunction] at h
  exact ⟨name, function, operands, hFunction, h⟩

/-- An error of the evaluation, and not of the text. -/
def Error.IsEvaluation (e : Error) : Prop := ∃ message, e = .evaluation message

theorem length_failsOnly (operands : List Operand) : FailsOnly Error.IsEvaluation (length operands) := by
  unfold length
  split
  · exact failsOnly_ok _
  · exact failsOnly_error ⟨_, rfl⟩

theorem count_failsOnly (operands : List Operand) : FailsOnly Error.IsEvaluation (count operands) := by
  unfold count
  split
  · exact failsOnly_ok _
  · exact failsOnly_error ⟨_, rfl⟩
  · exact failsOnly_error ⟨_, rfl⟩

theorem value_failsOnly (operands : List Operand) : FailsOnly Error.IsEvaluation (value operands) := by
  unfold value
  split
  · exact failsOnly_ok _
  · exact failsOnly_ok _
  · exact failsOnly_error ⟨_, rfl⟩
  · exact failsOnly_error ⟨_, rfl⟩

theorem patternTest_failsOnly [PatternEngine] (name : String) (pattern : String → String) (operands : List Operand) :
    FailsOnly Error.IsEvaluation (patternTest name pattern operands) := by
  unfold patternTest
  split
  · split <;> exact failsOnly_ok _
  · exact failsOnly_error ⟨_, rfl⟩

/-- What holds of each standard function holds of all entries of their table. -/
theorem forall_standardFunctions [PatternEngine] {P : Function → Prop} (hLength : P length) (hCount : P count)
    (hPatternTest : ∀ name pattern, P (patternTest name pattern)) (hValue : P value) {name : String}
    {function : Function} (h : Dict.get? standardFunctions name = some function) : P function := by
  have hEntries : standardFunctions = [("length", length), ("count", count),
    ("match", patternTest "match" anchored), ("search", patternTest "search" id), ("value", value)] := by
    simp [standardFunctions, Dict.ofList, Dict.merge, Dict.put]
  rw [hEntries] at h
  simp only [Dict.get?] at h
  split_ifs at h <;> cases h
  · exact hLength
  · exact hCount
  · exact hPatternTest "match" anchored
  · exact hPatternTest "search" id
  · exact hValue

theorem standardFunctions_failsOnly [PatternEngine] {name : String} {function : Function}
    (h : Dict.get? standardFunctions name = some function) :
    ∀ operands, FailsOnly Error.IsEvaluation (function operands) :=
  forall_standardFunctions (P := fun function => ∀ operands, FailsOnly Error.IsEvaluation (function operands))
    length_failsOnly count_failsOnly patternTest_failsOnly value_failsOnly h

end TemplateQuery.Query
