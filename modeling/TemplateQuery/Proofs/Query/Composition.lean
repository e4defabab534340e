import Mathlib.Data.List.Forall2
import TemplateQuery.Pattern.Reader
import TemplateQuery.Proofs.Query.Everywhere
import TemplateQuery.Proofs.Steps
import TemplateQuery.Query.Selection
import TemplateQuery.Query.Standard

/-!
# Paths one after the other

A path is followed level by level, but each node of a level is on its own: following a path from several nodes comes to
the same as following it from each of them and putting the results together, if none of them fails. Only paths inside
filters look back at where the query started, and only those that start at the document see the document.
-/
namespace TemplateQuery.Query

/-! ## Roots -/

/-- A path starts at a root of some kind. -/
def Expr.StartsAt (allowed : Root → Prop) : Expr → Prop
  | .path root _ => allowed root
  | _ => True

/-- Paths inside filters start at roots of some kind only. -/
def startsAt (allowed : Root → Prop) : Rules := ⟨fun _ => True, Expr.StartsAt allowed⟩

section Roots

variable {scope scope' : Scope}

theorem selectEach_congr {selectors : List Segment}
    (h : ∀ s ∈ selectors, ∀ node, select scope s node = select scope' s node) (node : Json) :
    selectEach scope selectors node = selectEach scope' selectors node := by
  induction selectors with
  | nil => rfl
  | cons s rest ih =>
    rw [List.forall_mem_cons] at h
    rw [selectEach, selectEach, h.1 node, ih h.2]

theorem follow_congr {segments : List Segment}
    (h : ∀ s ∈ segments, ∀ node, select scope s node = select scope' s node) (nodes : List Json) :
    follow scope segments nodes = follow scope' segments nodes := by
  induction segments generalizing nodes with
  | nil => rfl
  | cons s rest ih =>
    rw [List.forall_mem_cons] at h
    have hSelect : select scope s = select scope' s := funext h.1
    rw [follow, follow, hSelect]
    exact bind_congr_of_ok fun next _ => ih h.2 next

theorem evaluateAll_congr {exprs : List Expr}
    (h : ∀ e ∈ exprs, ∀ current, evaluate scope e current = evaluate scope' e current) (current : Json) :
    evaluateAll scope exprs current = evaluateAll scope' exprs current := by
  induction exprs with
  | nil => rfl
  | cons e rest ih =>
    rw [List.forall_mem_cons] at h
    rw [evaluateAll, evaluateAll, h.1 current, ih h.2]

/-- Two scopes are alike to whatever keeps to rules under which its paths start at the same value and its calls have the
same outcome in both. -/
theorem evaluation_congr {rules : Rules}
    (hStart : ∀ root segments, rules.expr (.path root segments) → ∀ current,
      scope.start root current = scope'.start root current)
    (hCall : ∀ name arguments, rules.expr (.call name arguments) → ∀ operands,
      scope.functions.call name operands = scope'.functions.call name operands) :
    Hereditary (fun s => s.Everywhere rules → ∀ node, select scope s node = select scope' s node)
      (fun e => e.Everywhere rules → ∀ current, evaluate scope e current = evaluate scope' e current)
    where
  child _ _ _ := rfl
  index _ _ _ := rfl
  wildcard _ _ := rfl
  descend selector ih h node := by
    have hSelect : select scope selector = select scope' selector := funext (ih h.2)
    rw [select, select, hSelect]
  slice _ _ _ _ _ := rfl
  union selectors ih h node := by
    have hAll := (everywhereOn_iff _ _).1 h.2
    exact selectEach_congr (fun s hs => ih s hs (hAll s hs)) node
  filter test ih h node := by
    have hTest : evaluate scope test = evaluate scope' test := funext (ih h.2)
    rw [select, select, hTest]
  literal _ _ _ := rfl
  path root segments ih h current := by
    have hAll := (everywhereOn_iff _ _).1 h.2
    rw [evaluate, evaluate, hStart root segments h.1, follow_congr fun s hs => ih s hs (hAll s hs)]
  call name arguments ih h current := by
    have hAll := (everywhereIn_iff _ _).1 h.2
    rw [evaluate, evaluate, evaluateAll_congr fun e he => ih e he (hAll e he)]
    simp only [hCall name arguments h.1]
  not _ ih h current := by rw [evaluate, evaluate, ih h.2]
  and _ _ ihl ihr h current := by
    rw [evaluate, evaluate, ihl h.2.1]
    simp only [ihr h.2.2]
  or _ _ ihl ihr h current := by
    rw [evaluate, evaluate, ihl h.2.1]
    simp only [ihr h.2.2]
  compare _ _ _ ihl ihr h current := by rw [evaluate, evaluate, ihl h.2.1, ihr h.2.2]

/-- A path that keeps to such rules is followed alike in both scopes. -/
theorem follow_congr_of_everywhere {rules : Rules}
    (hStart : ∀ root segments, rules.expr (.path root segments) → ∀ current,
      scope.start root current = scope'.start root current)
    (hCall : ∀ name arguments, rules.expr (.call name arguments) → ∀ operands,
      scope.functions.call name operands = scope'.functions.call name operands)
    {segments : List Segment} (h : EverywhereOn rules segments) : follow scope segments = follow scope' segments := by
  funext nodes
  refine follow_congr (fun s hs => ?_) nodes
  exact (evaluation_congr hStart hCall).segment s ((everywhereOn_iff _ _).1 h s hs)

/-- A path is followed alike in two scopes that agree on the roots that its filters start from. -/
theorem follow_congr_of_startsAt {allowed : Root → Prop} (hFunctions : scope.functions = scope'.functions)
    (hStart : ∀ root, allowed root → ∀ current, scope.start root current = scope'.start root current)
    {segments : List Segment} (h : EverywhereOn (startsAt allowed) segments) :
    follow scope segments = follow scope' segments := by
  refine follow_congr_of_everywhere (fun root _ => hStart root) (fun name _ _ operands => ?_) h
  rw [hFunctions]

/-- A path whose filters never go back to the document is followed alike whatever the document is. -/
theorem follow_eq_of_startsAt {segments : List Segment} (h : EverywhereOn (startsAt (· ≠ .document)) segments)
    (document document' extra : Json) (functions : FunctionTable) :
    follow ⟨document, extra, functions⟩ segments = follow ⟨document', extra, functions⟩ segments := by
  have hStart : ∀ root, root ≠ .document → ∀ current,
      Scope.start ⟨document, extra, functions⟩ root current = Scope.start ⟨document', extra, functions⟩ root current := by
    intro root hRoot current
    cases root with
    | document => exact absurd rfl hRoot
    | current => rfl
    | extra => rfl
  exact follow_congr_of_startsAt (by rfl) hStart h

/-- A path that neither starts at the extra value nor holds a path that does, at any depth, comes to the same nodes, or
to the same error, whatever the extra value is. So does a compiled query that holds no such path. -/
theorem extra_value_is_unseen {functions : FunctionTable} {root : Root} {segments : List Segment}
    (h : (Expr.path root segments).Everywhere (startsAt (· ≠ .extra))) (document current extra extra' : Json) :
    follow ⟨document, extra, functions⟩ segments [Scope.start ⟨document, extra, functions⟩ root current] =
        follow ⟨document, extra', functions⟩ segments [Scope.start ⟨document, extra', functions⟩ root current] ∧
      ∀ source, Compiled.run ⟨source, segments, functions⟩ document extra =
        Compiled.run ⟨source, segments, functions⟩ document extra' := by
  have hStart : ∀ root, root ≠ .extra → ∀ current, Scope.start ⟨document, extra, functions⟩ root current =
      Scope.start ⟨document, extra', functions⟩ root current := by
    intro root hRoot current
    cases root with
    | document => rfl
    | current => rfl
    | extra => exact absurd rfl hRoot
  have hFollow : follow ⟨document, extra, functions⟩ segments = follow ⟨document, extra', functions⟩ segments :=
    follow_congr_of_startsAt (by rfl) hStart h.2
  refine ⟨?_, fun source => ?_⟩
  · rw [hStart root h.1, hFollow]
  · rw [Compiled.run, Compiled.run, hFollow]

/-- The names of all users, if more than one of them is of age: `$.users[?count($.users[?@.age >= 18]) > 1].name`. -/
def namesInCompany : List Segment :=
  [.child "users", .filter (.compare (.call "count" [.path .document [.child "users",
    .filter (.compare (.path .current [.child "age"]) .greaterEqual (.literal (.ofNat 18)))]]) .greater
    (.literal (.ofNat 1))), .child "name"]

def company : Json :=
  .object [("users", .array [.object [("name", .string "Ada"), ("age", .ofNat 36)],
    .object [("name", .string "Tim"), ("age", .ofNat 9)], .object [("name", .string "Eve"), ("age", .ofNat 18)]])]

theorem extra_value_is_unseen_company :
    (Expr.path .document namesInCompany).Everywhere (startsAt (· ≠ .extra)) ∧
    Compiled.run ⟨"", namesInCompany, standardFunctions⟩ company .null =
      .ok [.string "Ada", .string "Tim", .string "Eve"] ∧
    Compiled.run ⟨"", namesInCompany, standardFunctions⟩ company company =
      .ok [.string "Ada", .string "Tim", .string "Eve"] := by
  have hAway : (Expr.path .document namesInCompany).Everywhere (startsAt (· ≠ .extra)) := by
    simp [namesInCompany, Expr.Everywhere, EverywhereOn, EverywhereIn, Segment.Everywhere, startsAt, Expr.StartsAt]
  have hRun : Compiled.run ⟨"", namesInCompany, standardFunctions⟩ company .null =
      .ok [.string "Ada", .string "Tim", .string "Eve"] := rfl
  refine ⟨hAway, hRun, ?_⟩
  rw [← hRun]
  exact (extra_value_is_unseen hAway company company company .null).2 ""

end Roots

/-! ## Node by node -/

section Nodes

variable {α β ε : Type} {f : α → Except ε (List β)}

theorem gather_append_eq_ok {xs ys : List α} {result : List β} :
    gather f (xs ++ ys) = .ok result ↔
      ∃ left right, gather f xs = .ok left ∧ gather f ys = .ok right ∧ result = left ++ right := by
  induction xs generalizing result with
  | nil => simp [gather, eq_comm]
  | cons x xs ih =>
    simp only [List.cons_append, gather, bind_eq_ok, ih, pure_eq_ok, Except.ok.injEq]
    constructor
    · rintro ⟨now, hNow, _, ⟨left, right, hLeft, hRight, rfl⟩, rfl⟩
      exact ⟨now ++ left, right, ⟨now, hNow, left, hLeft, rfl⟩, hRight, by simp⟩
    · rintro ⟨_, right, ⟨now, hNow, left, hLeft, rfl⟩, hRight, rfl⟩
      exact ⟨now, hNow, left ++ right, ⟨left, right, hLeft, hRight, rfl⟩, by simp⟩

/-- What a selection comes to, where one that fails comes to nothing. -/
def matchesOf (x : Except ε (List β)) : List β := x.toOption.getD []

@[simp] theorem matchesOf_ok (ys : List β) : matchesOf (.ok ys : Except ε (List β)) = ys := rfl

theorem mem_matchesOf {x : Except ε (List β)} {y : β} : y ∈ matchesOf x ↔ ∃ ys, x = .ok ys ∧ y ∈ ys := by
  cases x <;> simp [matchesOf, Except.toOption]

/-- Selections one after the other succeed if all of them do, and come to what they come to one after the other. -/
theorem gather_eq_ok_iff {xs : List α} {result : List β} :
    gather f xs = .ok result ↔ (∀ x ∈ xs, ∃ ys, f x = .ok ys) ∧ result = xs.flatMap fun x => matchesOf (f x) := by
  induction xs generalizing result with
  | nil => simp [gather, eq_comm]
  | cons x xs ih =>
    simp only [gather, bind_eq_ok, pure_eq_ok, Except.ok.injEq, List.forall_mem_cons, List.flatMap_cons, ih]
    constructor
    · rintro ⟨ys, hx, zs, ⟨hxs, rfl⟩, rfl⟩
      exact ⟨⟨⟨ys, hx⟩, hxs⟩, by rw [hx, matchesOf_ok]⟩
    · rintro ⟨⟨⟨ys, hx⟩, hxs⟩, rfl⟩
      exact ⟨ys, hx, _, ⟨hxs, rfl⟩, by rw [hx, matchesOf_ok]⟩

theorem mem_gather_iff {xs : List α} {result : List β} (h : gather f xs = .ok result) (y : β) :
    y ∈ result ↔ ∃ x ∈ xs, ∃ ys, f x = .ok ys ∧ y ∈ ys := by
  obtain ⟨-, rfl⟩ := gather_eq_ok_iff.1 h
  simp only [List.mem_flatMap, mem_matchesOf]

/-- What holds along each selection, and from each selection to a later one, holds along all of them together. -/
theorem pairwise_gather {xs : List α} {result : List β} (h : gather f xs = .ok result) {before : α → α → Prop}
    {r : β → β → Prop} (hBefore : xs.Pairwise before) (hOne : ∀ x ∈ xs, ∀ ys, f x = .ok ys → ys.Pairwise r)
    (hTwo : ∀ x ∈ xs, ∀ x' ∈ xs, before x x' → ∀ ys ys', f x = .ok ys → f x' = .ok ys' → ∀ y ∈ ys, ∀ y' ∈ ys', r y y') :
    result.Pairwise r := by
  obtain ⟨hAll, rfl⟩ := gather_eq_ok_iff.1 h
  rw [List.pairwise_flatMap]
  refine ⟨fun x hx => ?_, hBefore.imp_of_mem fun {x x'} hx hx' hLess y hy y' hy' => ?_⟩
  · obtain ⟨ys, hys⟩ := hAll x hx
    rw [hys, matchesOf_ok]
    exact hOne x hx ys hys
  · obtain ⟨ys, hys, hy⟩ := mem_matchesOf.1 hy
    obtain ⟨ys', hys', hy'⟩ := mem_matchesOf.1 hy'
    exact hTwo x hx x' hx' hLess ys ys' hys hys' y hy y' hy'

variable (scope : Scope)

theorem follow_append (p q : List Segment) (nodes : List Json) :
    follow scope (p ++ q) nodes = follow scope p nodes >>= follow scope q := by
  induction p generalizing nodes with
  | nil => rfl
  | cons s rest ih =>
    simp only [List.cons_append, follow, ih, bind_assoc]

theorem follow_no_nodes (segments : List Segment) : follow scope segments [] = .ok [] := by
  induction segments with
  | nil => rfl
  | cons s rest ih => exact ih

/-- The two halves of a level do not meet on the way. -/
theorem follow_nodes_append_eq_ok {segments : List Segment} {xs ys result : List Json} :
    follow scope segments (xs ++ ys) = .ok result ↔
      ∃ left right, follow scope segments xs = .ok left ∧ follow scope segments ys = .ok right ∧
        result = left ++ right := by
  induction segments generalizing xs ys result with
  | nil => simp [follow, eq_comm]
  | cons s rest ih =>
    simp only [follow, bind_eq_ok, gather_append_eq_ok]
    constructor
    · rintro ⟨_, ⟨left, right, hLeft, hRight, rfl⟩, hRest⟩
      obtain ⟨left', right', hLeft', hRight', rfl⟩ := ih.1 hRest
      exact ⟨left', right', ⟨left, hLeft, hLeft'⟩, ⟨right, hRight, hRight'⟩, rfl⟩
    · rintro ⟨left', right', ⟨left, hLeft, hLeft'⟩, ⟨right, hRight, hRight'⟩, rfl⟩
      exact ⟨left ++ right, ⟨left, right, hLeft, hRight, rfl⟩, ih.2 ⟨left', right', hLeft', hRight', rfl⟩⟩

/-- The nodes at the end of a path are those at its end from the first node, then those from the second one, and so
on. -/
theorem follow_eq_ok_iff {segments : List Segment} {nodes result : List Json} :
    follow scope segments nodes = .ok result ↔
      ∃ found, List.Forall₂ (fun node matched => follow scope segments [node] = .ok matched) nodes found ∧
        result = found.flatten := by
  induction nodes generalizing result with
  | nil =>
    simp [follow_no_nodes, eq_comm]
  | cons node rest ih =>
    rw [← List.singleton_append, follow_nodes_append_eq_ok]
    simp only [ih, List.singleton_append, List.forall₂_cons_left_iff]
    constructor
    · rintro ⟨matched, _, hNode, ⟨found, hFound, rfl⟩, rfl⟩
      exact ⟨matched :: found, ⟨matched, found, hNode, hFound, rfl⟩, rfl⟩
    · rintro ⟨_, ⟨matched, found, hNode, hFound, rfl⟩, rfl⟩
      exact ⟨matched, found.flatten, hNode, ⟨found, hFound, rfl⟩, rfl⟩

end Nodes

/-- What the paths inside a query may start from when it is run. -/
def Compiled.scope (query : Compiled) (document extra : Json) : Scope := ⟨document, extra, query.functions⟩

/-- The path of one query is the path of a second one followed by that of a third one, with the same functions. -/
structure Compiled.Joins (joined first second : Compiled) : Prop where
  segments : joined.segments = first.segments ++ second.segments
  functionsOfFirst : first.functions = joined.functions
  functionsOfSecond : second.functions = joined.functions

/-- A query whose second part never goes back to the document can be run in two parts. -/
theorem Compiled.Joins.run_eq_ok_iff {joined first second : Compiled} (hJoins : joined.Joins first second)
    (hAway : EverywhereOn (startsAt (· ≠ .document)) second.segments) (document extra : Json) (values : List Json) :
    joined.run document extra = .ok values ↔
      ∃ outer inner, first.run document extra = .ok outer ∧
        List.Forall₂ (fun item found => second.run item extra = .ok found) outer inner ∧ values = inner.flatten := by
  have hItem (item : Json) : second.run item extra =
      follow ⟨document, extra, joined.functions⟩ second.segments [item] := by
    rw [run, hJoins.functionsOfSecond, follow_eq_of_startsAt hAway item document]
  rw [run, hJoins.segments, follow_append, bind_eq_ok, run, hJoins.functionsOfFirst]
  simp only [hItem]
  constructor
  · rintro ⟨outer, hOuter, hRest⟩
    obtain ⟨inner, hInner, rfl⟩ := (follow_eq_ok_iff _).1 hRest
    exact ⟨outer, inner, hOuter, hInner, rfl⟩
  · rintro ⟨outer, inner, hOuter, hInner, rfl⟩
    exact ⟨outer, hOuter, (follow_eq_ok_iff _).2 ⟨inner, hInner, rfl⟩⟩

end TemplateQuery.Query
