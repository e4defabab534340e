import TemplateQuery.Pattern.Reader
import TemplateQuery.Proofs.Steps
import TemplateQuery.Query.Selection
import TemplateQuery.Query.Standard

/-!
# Paths as arguments

A function sees its argument as an operand, and a path is an operand of two kinds: its nodes, or nothing if it is singular
and matches none. The functions that want a path, `count` and `value`, take nodes only. So they answer on every path but
one that is singular and matches nothing, where both fail as if their argument were no path.
-/
namespace TemplateQuery.Query

section Operands

variable {segments : List Segment} {nodes : List Json}

theorem pathOperand_of_nodes (h : isSingular segments = false ∨ nodes ≠ []) :
    pathOperand segments nodes = .nodes nodes := by
  rcases h with h | h <;> simp [pathOperand, h]

theorem pathOperand_of_none (h : isSingular segments = true) : pathOperand segments [] = .nothing := by
  simp [pathOperand, h]

end Operands

/-- What `value` answers on a list of nodes. -/
def oneNode : List Json → Answer
  | [x] => .value x
  | _ => .nothing

theorem value_nodes (nodes : List Json) : value [.nodes nodes] = .ok (oneNode nodes) := by
  rcases nodes with _ | ⟨x, _ | ⟨y, rest⟩⟩ <;> rfl

section Calls

variable {scope : Scope} {root : Root} {segments : List Segment} {current : Json} {nodes : List Json}

/-- A call on one path gets the operand of that path. -/
theorem evaluate_call_path {name : String} {function : Function}
    (hFunction : Dict.get? scope.functions name = some function)
    (hPath : follow scope segments [scope.start root current] = .ok nodes) :
    evaluate scope (.call name [.path root segments]) current =
      (function [pathOperand segments nodes]).map Answer.toOperand := by
  simp only [evaluate, evaluateAll, hPath, ok_bind, pure_eq_ok, FunctionTable.call, hFunction]
  cases function [pathOperand segments nodes] <;> rfl

/-- Let a path come to some nodes without an error. If it is not singular, or if there is a node, then `count` gives the
number of the nodes, and `value` gives the only node there is, or nothing. But if it is singular and there is no node,
both calls fail. -/
theorem count_and_value_of_path [PatternEngine] (hFunctions : scope.functions = standardFunctions)
    (hPath : follow scope segments [scope.start root current] = .ok nodes) :
    (isSingular segments = false ∨ nodes ≠ [] →
      evaluate scope (.call "count" [.path root segments]) current = .ok (.value (.ofNat nodes.length)) ∧
      evaluate scope (.call "value" [.path root segments]) current = .ok (oneNode nodes).toOperand) ∧
    (isSingular segments = true → nodes = [] →
      evaluate scope (.call "count" [.path root segments]) current = .error (pathExpectedError "count") ∧
      evaluate scope (.call "value" [.path root segments]) current = .error (pathExpectedError "value")) := by
  have hCount : Dict.get? scope.functions "count" = some count := by
    rw [hFunctions]
    rfl
  have hValue : Dict.get? scope.functions "value" = some value := by
    rw [hFunctions]
    rfl
  rw [evaluate_call_path hCount hPath, evaluate_call_path hValue hPath]
  refine ⟨fun h => ?_, fun hSingular hNone => ?_⟩
  · rw [pathOperand_of_nodes h, value_nodes]
    exact ⟨rfl, rfl⟩
  · subst hNone
    rw [pathOperand_of_none hSingular]
    exact ⟨rfl, rfl⟩

end Calls

/-- The children without a note: `$[?count(@.note) == 0]`. -/
def withoutNote : Compiled where
  source := "$[?count(@.note) == 0]"
  segments := [.filter (.compare (.call "count" [.path .current [.child "note"]]) .equal (.literal (.ofNat 0)))]
  functions := standardFunctions

def noted : Json := .object [("note", .string "late"), ("day", .ofNat 3)]

def standardScope : Scope := ⟨.null, .null, standardFunctions⟩

theorem count_and_value_of_path_noted :
    evaluate standardScope (.call "count" [.path .current [.wildcard]]) noted = .ok (.value (.ofNat 2)) ∧
    evaluate standardScope (.call "value" [.path .current [.wildcard]]) noted = .ok .nothing ∧
    evaluate standardScope (.call "value" [.path .current [.child "note"]]) noted = .ok (.value (.string "late")) ∧
    evaluate standardScope (.call "count" [.path .current [.child "hour"]]) noted =
      .error (pathExpectedError "count") := by
  have hAll : follow standardScope [.wildcard] [standardScope.start .current noted] =
      .ok [.string "late", .ofNat 3] := rfl
  have hNote : follow standardScope [.child "note"] [standardScope.start .current noted] = .ok [.string "late"] := rfl
  have hHour : follow standardScope [.child "hour"] [standardScope.start .current noted] = .ok [] := rfl
  refine ⟨?_, ?_, ?_, ?_⟩
  · exact ((count_and_value_of_path rfl hAll).1 (.inl rfl)).1
  · exact ((count_and_value_of_path rfl hAll).1 (.inl rfl)).2
  · exact ((count_and_value_of_path rfl hNote).1 (.inr (by simp))).2
  · exact ((count_and_value_of_path rfl hHour).2 rfl rfl).1

/-- Neither call accepts a path to a missing member. So a query that counts the notes of each child succeeds if all
children have one, and fails as soon as one of them has none. -/
theorem count_and_value_fail_without_member :
    compile standardFunctions "$[?count(@.note) == 0]" = .ok withoutNote ∧
    follow standardScope [.child "note"] [.object []] = .ok [] ∧
    evaluate standardScope (.call "count" [.path .current [.child "note"]]) (.object []) =
      .error (.evaluation "count() expects a path argument") ∧
    evaluate standardScope (.call "value" [.path .current [.child "note"]]) (.object []) =
      .error (.evaluation "value() expects a path argument") ∧
    withoutNote.run (.array [noted]) .null = .ok [] ∧
    withoutNote.run (.array [noted, .object []]) .null = .error (.evaluation "count() expects a path argument") := by
  have hCompile : compile standardFunctions "$[?count(@.note) == 0]" = .ok withoutNote := rfl
  exact ⟨hCompile, rfl, rfl, rfl, rfl, rfl⟩

end TemplateQuery.Query
