import TemplateQuery.Proofs.Query.Composition
import TemplateQuery.Template.Expression

/-!
# Variables and singular paths

The path of a variable and a query of member names and indices take the same way into a value. Only two names set them
apart: a variable asks an array for its ends by `first` and `last`, where a query finds no member.
-/
namespace TemplateQuery

namespace Query

/-! ## Singular paths -/

/-- The node that a member name or an index selects, if there is one. -/
def Segment.only? : Segment → Json → Option Json
  | .child name, node => node.get? name
  | .index position, .array items => atIndex? items position
  | _, _ => none

/-- The node at the end of a path of member names and indices. -/
def onlyNode? : List Segment → Json → Option Json
  | [], node => some node
  | s :: rest, node => (s.only? node).bind (onlyNode? rest)

theorem select_eq_only? (scope : Scope) {s : Segment} (h : s.isSingular = true) (node : Json) :
    select scope s node = .ok (s.only? node).toList := by
  cases s with
  | child name => rfl
  | index position => cases node <;> rfl
  | _ => simp [Segment.isSingular] at h

/-- A singular path never fails, and comes to one node at most. -/
theorem follow_eq_onlyNode? (scope : Scope) {segments : List Segment} (h : isSingular segments = true) (node : Json) :
    follow scope segments [node] = .ok (onlyNode? segments node).toList := by
  induction segments generalizing node with
  | nil => rfl
  | cons s rest ih =>
    simp only [isSingular, List.all_cons, Bool.and_eq_true] at h
    have hFollow : follow scope (s :: rest) [node] = follow scope rest (s.only? node).toList := by
      simp [follow, gather, select_eq_only? scope h.1]
    rw [hFollow, onlyNode?]
    cases s.only? node with
    | none => simp [follow_no_nodes]
    | some next => simpa using ih h.2 next

end Query

namespace Template

/-! ## Paths of variables -/

/-- The segment of a query that takes the same step. -/
def Step.segment : Step → Query.Segment
  | .key name => .child name
  | .index position => .index position

/-- A variable finds the element at an index by counting to its position, a query by comparing with the range of the array.
They find the same. -/
theorem Step.get?_index (items : List Json) (index : Int) :
    (Step.index index).get? (.array items) = Query.atIndex? items index := by
  show (elementPosition? items.length index).bind (items[·]?) = _
  rw [elementPosition?, Query.atIndex?, Query.fromStart]
  generalize (if index < 0 then (items.length : Int) + index else index) = position
  cases position with
  | ofNat n =>
    show items[n]? = if 0 ≤ (n : Int) ∧ (n : Int) < items.length then items[n]? else none
    split
    · rfl
    · exact List.getElem?_eq_none (by omega)
  | negSucc n =>
    rw [Int.toNat?, Option.bind_none]
    exact (if_neg (by omega)).symm

/-- No step of the path asks an array for one of its ends by name. -/
def NamesNoEnd (value : Json) (path : List Step) : Prop :=
  ∀ before name rest, path = before ++ .key name :: rest → name = "first" ∨ name = "last" →
    ∀ items, valueAt? value before ≠ some (.array items)

theorem NamesNoEnd.get?_eq {value : Json} {step : Step} {rest : List Step} (h : NamesNoEnd value (step :: rest)) :
    step.get? value = step.segment.only? value := by
  cases step with
  | index position =>
    cases value with
    | array items => exact Step.get?_index items position
    | _ => rfl
  | key name =>
    cases value with
    | array items =>
      have hName : ¬(name = "first" ∨ name = "last") := fun hEnd => h [] name rest rfl hEnd items rfl
      rw [not_or] at hName
      simp [Step.get?, Step.segment, Query.Segment.only?, Json.get?, hName.1, hName.2]
    | _ => rfl

theorem NamesNoEnd.tail {value next : Json} {step : Step} {rest : List Step} (h : NamesNoEnd value (step :: rest))
    (hNext : step.get? value = some next) : NamesNoEnd next rest := by
  rintro before name after rfl hEnd items
  have hBefore := h (step :: before) name after rfl hEnd items
  rwa [valueAt?, hNext] at hBefore

theorem NamesNoEnd.valueAt?_eq {value : Json} {path : List Step} (h : NamesNoEnd value path) :
    valueAt? value path = Query.onlyNode? (path.map Step.segment) value := by
  induction path generalizing value with
  | nil => rfl
  | cons step rest ih =>
    rw [List.map_cons, Query.onlyNode?, valueAt?, ← h.get?_eq]
    cases hNext : step.get? value with
    | none => rfl
    | some next => exact ih (h.tail hNext)

theorem isSingular_map_segment (path : List Step) : Query.isSingular (path.map Step.segment) = true := by
  induction path with
  | nil => rfl
  | cons step rest ih =>
    cases step with
    | key name => exact ih
    | index position => exact ih

/-- Take a variable that holds a value, a path that never asks an array for one of its ends by name, and the query that
takes the same steps from that value. The query is singular, never fails and matches one node at most. If it matches a
node, that node is the value of the variable at the end of the path; if it matches none, the variable is undefined
there. -/
theorem reference_agrees_with_singular_query {context : RenderContext} {name : String} {value : Json}
    (hName : context.resolve name = some value) {path : List Step} (hPath : NamesNoEnd value path)
    {query : Query.Compiled} (hQuery : query.segments = path.map Step.segment) (extra : Json) :
    Query.isSingular query.segments = true ∧
    (∃ found : Option Json, query.run value extra = .ok found.toList) ∧
    (∀ x, (Expression.reference name path).evaluate context = .defined x ↔ query.run value extra = .ok [x]) ∧
    ((∃ hint, (Expression.reference name path).evaluate context = .undefined hint) ↔ query.run value extra = .ok []) := by
  have hSingular : Query.isSingular query.segments = true := hQuery ▸ isSingular_map_segment path
  have hRun : query.run value extra = .ok (valueAt? value path).toList := by
    rw [Query.Compiled.run, Query.follow_eq_onlyNode? _ hSingular, hPath.valueAt?_eq, hQuery]
  refine ⟨hSingular, ⟨_, hRun⟩, ?_⟩
  rw [hRun]
  cases hFound : valueAt? value path with
  | none => simp [Expression.evaluate, hName, hFound]
  | some found => simp [Expression.evaluate, hName, hFound]

/-- The last but one reading of the first sensor, where `first` names a member of an object. -/
def lastButOne : List Step := [.key "sensors", .index 0, .key "first", .index (-2)]

def sensor : Json := .object [("first", .array [.ofNat 20, .ofNat 21, .ofNat 19])]

def sensorData : Json := .object [("sensors", .array [sensor])]

theorem reference_agrees_with_singular_query_lastButOne :
    (RenderContext.ofGlobals (.object [("data", sensorData)])).resolve "data" = some sensorData ∧
    NamesNoEnd sensorData lastButOne ∧
    (Expression.reference "data" lastButOne).evaluate (.ofGlobals (.object [("data", sensorData)])) =
      .defined (.ofNat 21) ∧
    Query.Compiled.run ⟨"$.sensors[0].first[-2]", lastButOne.map Step.segment, []⟩ sensorData .null =
      .ok [.ofNat 21] := by
  have hName : (RenderContext.ofGlobals (.object [("data", sensorData)])).resolve "data" = some sensorData := rfl
  have hPath : NamesNoEnd sensorData lastButOne := by
    intro before name rest hSteps hEnd items
    simp [lastButOne, List.cons_eq_append_iff] at hSteps
    rcases hSteps with ⟨-, rfl, -⟩ | ⟨rfl, -⟩
    · simp at hEnd
    · have hLeads : valueAt? sensorData [.key "sensors", .index 0] = some sensor := rfl
      simp [hLeads, sensor]
  have hRun : Query.Compiled.run ⟨"$.sensors[0].first[-2]", lastButOne.map Step.segment, []⟩ sensorData .null =
      .ok [.ofNat 21] := rfl
  refine ⟨hName, hPath, ?_, hRun⟩
  exact ((reference_agrees_with_singular_query hName hPath rfl .null).2.2.1 _).2 hRun

end Template

end TemplateQuery
