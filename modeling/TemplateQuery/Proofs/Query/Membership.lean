import TemplateQuery.Pattern.Reader
import TemplateQuery.Proofs.Query.PathArguments

/-!
# Membership among the nodes of a path

A comparison sees the nodes of a path as one value: several nodes as the array of them, a lone node as itself. So `in` and
`contains` look for an item among the nodes if there are several. A lone node they take for the container, and look for
the item inside it.
-/
namespace TemplateQuery.Query

section Nodes

variable {segments : List Segment} {nodes : List Json} {item : Json}

theorem contains_lone_node (node : Json) :
    Comparison.containsSides (pathOperand segments [node]).comparable (some item) = node.contains item := by
  simp [pathOperand, Operand.comparable, Comparison.containsSides]

theorem contains_nodes (h : nodes.length ≠ 1) :
    Comparison.containsSides (pathOperand segments nodes).comparable (some item) = true ↔
      ∃ node ∈ nodes, node.equal item = true := by
  rcases nodes with _ | ⟨first, _ | ⟨second, rest⟩⟩
  · cases hSingular : isSingular segments <;>
      simp [pathOperand, hSingular, Operand.comparable, Comparison.containsSides]
  · exact absurd rfl h
  · simp [pathOperand, Operand.comparable, Comparison.containsSides, Json.contains]

end Nodes

section Comparisons

variable {scope : Scope} {x : Expr} {root : Root} {segments : List Segment} {current item : Json} {nodes : List Json}
  {operand : Operand}

/-- Let a path come to some nodes without an error, and an expression to one value, the item. Then the path contains the
item, and the item is in the path, if one of the nodes equals the item, except if there is just one node: then it counts
whether that node contains the item. So nodes that equal the item are what is looked for just if a lone node does not
tell containing from equality. -/
theorem membership_among_nodes (hNodes : follow scope segments [scope.start root current] = .ok nodes)
    (hItem : evaluate scope x current = .ok operand) (hValue : operand.comparable = some item) :
    ∃ found : Bool,
      evaluate scope (.compare x .isIn (.path root segments)) current = .ok (.logical found) ∧
      evaluate scope (.compare (.path root segments) .contains x) current = .ok (.logical found) ∧
      (nodes.length ≠ 1 → (found = true ↔ ∃ node ∈ nodes, node.equal item = true)) ∧
      (∀ node, nodes = [node] → found = node.contains item) ∧
      ((found = true ↔ ∃ node ∈ nodes, node.equal item = true) ↔
        ∀ node, nodes = [node] → node.contains item = node.equal item) := by
  refine ⟨Comparison.containsSides (pathOperand segments nodes).comparable (some item), ?_, ?_, contains_nodes, ?_, ?_⟩
  · simp only [evaluate, hNodes, hItem, ok_bind, pure_eq_ok, Comparison.holds, hValue]
  · simp only [evaluate, hNodes, hItem, ok_bind, pure_eq_ok, Comparison.holds, hValue]
  · rintro node rfl
    exact contains_lone_node node
  · by_cases hLone : ∃ node, nodes = [node]
    · obtain ⟨node, rfl⟩ := hLone
      simp only [contains_lone_node, List.mem_singleton, exists_eq_left, ← Bool.eq_iff_iff]
      refine ⟨?_, fun h => h node rfl⟩
      rintro h _ ⟨rfl⟩
      exact h
    · have hLength : nodes.length ≠ 1 := fun h => hLone (List.length_eq_one_iff.1 h)
      exact iff_of_true (contains_nodes hLength) fun node h => absurd ⟨node, h⟩ hLone

end Comparisons

/-- Among several numbers the one is found, and among no nodes it is not. An only node that is an array is looked into. -/
theorem membership_among_nodes_numbers :
    evaluate standardScope (.compare (.literal (.ofNat 1)) .isIn (.path .current [.wildcard]))
      (.array [.ofNat 2, .ofNat 1]) = .ok (.logical true) ∧
    evaluate standardScope (.compare (.literal (.ofNat 1)) .isIn (.path .current [.wildcard])) (.array []) =
      .ok (.logical false) ∧
    evaluate standardScope (.compare (.path .current [.wildcard]) .contains (.literal (.ofNat 1)))
      (.array [.array [.ofNat 1]]) = .ok (.logical true) := by
  have hItem (current : Json) : evaluate standardScope (.literal (.ofNat 1)) current = .ok (.value (.ofNat 1)) := rfl
  have hMany : follow standardScope [.wildcard] [standardScope.start .current (.array [.ofNat 2, .ofNat 1])] =
      .ok [.ofNat 2, .ofNat 1] := rfl
  have hNone : follow standardScope [.wildcard] [standardScope.start .current (.array [])] = .ok [] := rfl
  have hLone : follow standardScope [.wildcard] [standardScope.start .current (.array [.array [.ofNat 1]])] =
      .ok [.array [.ofNat 1]] := rfl
  obtain ⟨found, hIn, -, hFound, -, -⟩ := membership_among_nodes hMany (hItem _) rfl
  obtain ⟨foundInNone, hInNone, -, hFoundInNone, -, -⟩ := membership_among_nodes hNone (hItem _) rfl
  obtain ⟨foundInLone, -, hContains, -, hFoundInLone, -⟩ := membership_among_nodes hLone (hItem _) rfl
  have hTrue : found = true := (hFound (by decide)).2 ⟨.ofNat 1, by simp, rfl⟩
  have hFalse : foundInNone = false := by
    rw [← Bool.not_eq_true, hFoundInNone (by decide)]
    simp
  refine ⟨?_, ?_, ?_⟩
  · rw [hIn, hTrue]
  · rw [hInNone, hFalse]
  · rw [hContains, hFoundInLone _ rfl]
    rfl

/-- The children that have the number one as a child: `$[?1 in @[*]]`. -/
def aboveOne : Compiled where
  source := "$[?1 in @[*]]"
  segments := [.filter (.compare (.literal (.ofNat 1)) .isIn (.path .current [.wildcard]))]
  functions := standardFunctions

/-- A lone number is not found in itself, though it is found as soon as a second node stands beside it. And a text is
found in a lone node that it does not equal but is a part of. -/
theorem membership_fails_for_lone_node :
    isSingular [.wildcard] = false ∧
    follow standardScope [.wildcard] [.array [.ofNat 1]] = .ok [.ofNat 1] ∧
    (Json.ofNat 1).equal (.ofNat 1) = true ∧
    evaluate standardScope (.compare (.literal (.ofNat 1)) .isIn (.path .current [.wildcard])) (.array [.ofNat 1]) =
      .ok (.logical false) ∧
    follow standardScope [.wildcard] [.array [.string "abc"]] = .ok [.string "abc"] ∧
    (Json.string "abc").equal (.string "a") = false ∧
    evaluate standardScope (.compare (.path .current [.wildcard]) .contains (.literal (.string "a")))
      (.array [.string "abc"]) = .ok (.logical true) ∧
    compile standardFunctions "$[?1 in @[*]]" = .ok aboveOne ∧
    aboveOne.run (.array [.array [.ofNat 1], .array [.ofNat 1, .ofNat 2]]) .null =
      .ok [.array [.ofNat 1, .ofNat 2]] := by
  have hCompile : compile standardFunctions "$[?1 in @[*]]" = .ok aboveOne := rfl
  exact ⟨rfl, rfl, rfl, rfl, rfl, rfl, rfl, hCompile, rfl⟩

end TemplateQuery.Query
