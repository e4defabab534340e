import Mathlib.Data.List.Perm.Basic
import TemplateQuery.Proofs.Query.Composition

/-!
# Unions

A union asks a node for what its selectors take, one selector after the other. Wherever it stands in a path and whatever
follows it, it comes to all that the paths through the single selectors come to, as often as they do. Only the order may
differ: a union goes from node to node, and the paths through its selectors go over the nodes once for each selector.
-/
namespace TemplateQuery.Query

/-! ## Node by node and selector by selector -/

section Tables

variable {α β γ ε : Type}

/-- A table read row by row shows what it shows column by column. -/
theorem flatMap_flatMap_perm (xs : List α) (ys : List β) (cell : α → β → List γ) :
    (xs.flatMap fun x => ys.flatMap (cell x)).Perm (ys.flatMap fun y => xs.flatMap fun x => cell x y) := by
  induction xs with
  | nil => simp
  | cons x xs ih =>
    simp only [List.flatMap_cons]
    exact (ih.append_left _).trans (List.flatMap_append_perm ys (cell x) _)

theorem flatMap_flatMap_eq {xs : List α} (hLength : xs.length ≤ 1) (ys : List β) (cell : α → β → List γ) :
    (xs.flatMap fun x => ys.flatMap (cell x)) = ys.flatMap fun y => xs.flatMap fun x => cell x y := by
  cases xs with
  | nil => simp
  | cons x xs =>
    have hNil : xs = [] := by simpa using hLength
    simp [hNil]

theorem forall₂_eq_ok_iff {f : α → Except ε (List β)} {xs : List α} {found : List (List β)} :
    List.Forall₂ (fun x ys => f x = .ok ys) xs found ↔
      (∀ x ∈ xs, ∃ ys, f x = .ok ys) ∧ found = xs.map fun x => matchesOf (f x) := by
  induction xs generalizing found with
  | nil => simp
  | cons x xs ih =>
    simp only [List.forall₂_cons_left_iff, ih, List.forall_mem_cons, List.map_cons]
    constructor
    · rintro ⟨ys, _, hx, ⟨hxs, rfl⟩, rfl⟩
      exact ⟨⟨⟨ys, hx⟩, hxs⟩, by rw [hx, matchesOf_ok]⟩
    · rintro ⟨⟨⟨ys, hx⟩, hxs⟩, rfl⟩
      exact ⟨ys, _, hx, ⟨hxs, rfl⟩, by rw [hx, matchesOf_ok]⟩

end Tables

section Paths

variable (scope : Scope) {segments after selectors : List Segment} {nodes result : List Json}

/-- A path is followed from several nodes by following it from each of them. -/
theorem follow_eq_ok_iff_forall : follow scope segments nodes = .ok result ↔
    (∀ node ∈ nodes, ∃ found, follow scope segments [node] = .ok found) ∧
      result = nodes.flatMap fun node => matchesOf (follow scope segments [node]) := by
  rw [follow_eq_ok_iff]
  simp only [forall₂_eq_ok_iff, List.flatMap_def]
  constructor
  · rintro ⟨_, ⟨hNodes, rfl⟩, rfl⟩
    exact ⟨hNodes, rfl⟩
  · rintro ⟨hNodes, rfl⟩
    exact ⟨_, ⟨hNodes, rfl⟩, rfl⟩

theorem follow_cons_one (s : Segment) (node : Json) :
    follow scope (s :: segments) [node] = select scope s node >>= follow scope segments := by
  rw [follow, gather]
  cases select scope s node with
  | error e => rfl
  | ok found => simp [gather]

/-- From one node, a path through a union is followed by following the paths through its selectors. -/
theorem follow_union_eq_ok_iff {node : Json} : follow scope (.union selectors :: after) [node] = .ok result ↔
    (∀ s ∈ selectors, ∃ found, follow scope (s :: after) [node] = .ok found) ∧
      result = selectors.flatMap fun s => matchesOf (follow scope (s :: after) [node]) := by
  rw [← gather_eq_ok_iff]
  simp only [follow_cons_one, select]
  induction selectors generalizing result with
  | nil => simp [selectEach, gather, follow_no_nodes]
  | cons s rest ih =>
    simp only [selectEach, gather, bind_assoc, pure_eq_ok, ok_bind, bind_eq_ok, Except.ok.injEq, ← ih,
      follow_nodes_append_eq_ok]
    constructor
    · rintro ⟨now, hNow, later, hLater, left, right, hLeft, hRight, rfl⟩
      exact ⟨now, hNow, left, hLeft, right, ⟨later, hLater, hRight⟩, rfl⟩
    · rintro ⟨now, hNow, left, hLeft, right, ⟨later, hLater, hRight⟩, rfl⟩
      exact ⟨now, hNow, later, hLater, left, right, hLeft, hRight, rfl⟩

theorem exists_follow_union_iff {node : Json} : (∃ found, follow scope (.union selectors :: after) [node] = .ok found) ↔
    ∀ s ∈ selectors, ∃ found, follow scope (s :: after) [node] = .ok found := by
  simp only [follow_union_eq_ok_iff, exists_and_left, exists_eq, and_true]

theorem matchesOf_follow_union {node : Json}
    (h : ∀ s ∈ selectors, ∃ found, follow scope (s :: after) [node] = .ok found) :
    matchesOf (follow scope (.union selectors :: after) [node]) =
      selectors.flatMap fun s => matchesOf (follow scope (s :: after) [node]) := by
  rw [(follow_union_eq_ok_iff scope).2 ⟨h, rfl⟩, matchesOf_ok]

end Paths

/-! ## Queries through a union -/

/-- The query with a path through some segment in place of its own. -/
def Compiled.through (query : Compiled) (before : List Segment) (s : Segment) (after : List Segment) : Compiled :=
  { query with segments := before ++ s :: after }

section Through

variable (query : Compiled) {before after selectors : List Segment} {s : Segment} {document extra : Json}
  {nodes values : List Json}

theorem Compiled.run_through (before after : List Segment) (s : Segment) (document extra : Json) :
    (query.through before s after).run document extra =
      { query with segments := before }.run document extra >>=
        follow (query.scope document extra) (s :: after) :=
  follow_append _ before (s :: after) [document]

/-- Where the path comes to the segment does not depend on the segment, and from each node there it is followed alone. -/
theorem Compiled.run_through_eq_ok_iff (hNodes : { query with segments := before }.run document extra = .ok nodes) :
    (query.through before s after).run document extra = .ok values ↔
      (∀ node ∈ nodes, ∃ found, follow (query.scope document extra) (s :: after) [node] = .ok found) ∧
        values = nodes.flatMap fun node => matchesOf (follow (query.scope document extra) (s :: after) [node]) := by
  rw [run_through, hNodes, ok_bind, follow_eq_ok_iff_forall]

theorem Compiled.exists_nodes_of_run_through (h : (query.through before s after).run document extra = .ok values) :
    ∃ nodes, { query with segments := before }.run document extra = .ok nodes := by
  rw [run_through, bind_eq_ok] at h
  obtain ⟨nodes, hNodes, -⟩ := h
  exact ⟨nodes, hNodes⟩

/-- What a query through a union matches, in the order in which it does: node by node. -/
theorem Compiled.run_through_union_eq_ok_iff
    (hNodes : { query with segments := before }.run document extra = .ok nodes) :
    (query.through before (.union selectors) after).run document extra = .ok values ↔
      (∀ s ∈ selectors, ∃ matched, (query.through before s after).run document extra = .ok matched) ∧
        values = nodes.flatMap fun node => selectors.flatMap fun s =>
          matchesOf (follow (query.scope document extra) (s :: after) [node]) := by
  have hSelectors : (∀ s ∈ selectors, ∃ matched, (query.through before s after).run document extra = .ok matched) ↔
      ∀ node ∈ nodes, ∀ s ∈ selectors, ∃ found, follow (query.scope document extra) (s :: after) [node] = .ok found := by
    simp only [run_through_eq_ok_iff query hNodes, exists_and_left, exists_eq, and_true]
    exact forall₂_comm
  rw [run_through_eq_ok_iff query hNodes, hSelectors]
  simp only [exists_follow_union_iff]
  refine and_congr_right fun hAll => ?_
  rw [List.flatMap_congr fun node hMem => matchesOf_follow_union _ (hAll node hMem)]

/-- What the queries through single selectors match, one query after the other. -/
theorem Compiled.flatten_of_run_through (hNodes : { query with segments := before }.run document extra = .ok nodes)
    {found : List (List Json)}
    (hFound : List.Forall₂ (fun s matched => (query.through before s after).run document extra = .ok matched)
      selectors found) :
    found.flatten = selectors.flatMap fun s => nodes.flatMap fun node =>
      matchesOf (follow (query.scope document extra) (s :: after) [node]) := by
  rw [forall₂_eq_ok_iff] at hFound
  obtain ⟨hAll, rfl⟩ := hFound
  rw [← List.flatMap_def]
  refine List.flatMap_congr fun s hs => ?_
  obtain ⟨matched, hMatched⟩ := hAll s hs
  rw [hMatched, matchesOf_ok]
  exact ((run_through_eq_ok_iff query hNodes).1 hMatched).2

end Through

/-- A query through a union succeeds just if the queries through its selectors do. Then it has the matches of all of them,
each as often as they have it; and in the order of the selectors if the path comes to the union at one node at most. -/
theorem union_matches_all_selectors (query : Compiled) (before after : List Segment) {selectors : List Segment}
    (hSelectors : selectors ≠ []) (document extra : Json) :
    ((∃ values, (query.through before (.union selectors) after).run document extra = .ok values) ↔
      ∀ s ∈ selectors, ∃ matched, (query.through before s after).run document extra = .ok matched) ∧
    ∀ values found, (query.through before (.union selectors) after).run document extra = .ok values →
      List.Forall₂ (fun s matched => (query.through before s after).run document extra = .ok matched) selectors found →
      values.Perm found.flatten ∧
      ∀ nodes, { query with segments := before }.run document extra = .ok nodes → nodes.length ≤ 1 →
        values = found.flatten := by
  refine ⟨⟨?_, fun h => ?_⟩, fun values found hValues hFound => ?_⟩
  · rintro ⟨values, hValues⟩
    obtain ⟨nodes, hNodes⟩ := query.exists_nodes_of_run_through hValues
    exact ((query.run_through_union_eq_ok_iff hNodes).1 hValues).1
  · obtain ⟨s, hs⟩ := List.exists_mem_of_ne_nil selectors hSelectors
    obtain ⟨matched, hMatched⟩ := h s hs
    obtain ⟨nodes, hNodes⟩ := query.exists_nodes_of_run_through hMatched
    exact ⟨_, (query.run_through_union_eq_ok_iff hNodes).2 ⟨h, rfl⟩⟩
  · obtain ⟨nodes, hNodes⟩ := query.exists_nodes_of_run_through hValues
    obtain ⟨-, rfl⟩ := (query.run_through_union_eq_ok_iff hNodes).1 hValues
    rw [query.flatten_of_run_through hNodes hFound]
    refine ⟨flatMap_flatMap_perm nodes selectors _, fun nodes' hNodes' hLength => ?_⟩
    cases hNodes.symm.trans hNodes'
    exact flatMap_flatMap_eq hLength selectors _

/-- Some numbers of every row, the second one twice: `$.*[1,0,1].id`. -/
def numbersOfRows : Compiled where
  source := "$.*[1,0,1].id"
  segments := [.wildcard, .union [.index 1, .index 0, .index 1], .child "id"]
  functions := []

def rows : Json :=
  .object [("left", .array [.object [("id", .ofNat 1)], .object [("id", .ofNat 2)]]),
    ("right", .array [.object [("id", .ofNat 3)], .object [("id", .ofNat 4)]])]

/-- With two rows the order is not that of the selectors. -/
theorem union_matches_all_selectors_rows :
    ([.index 1, .index 0, .index 1] : List Segment) ≠ [] ∧
    numbersOfRows.run rows .null = .ok [.ofNat 2, .ofNat 1, .ofNat 2, .ofNat 4, .ofNat 3, .ofNat 4] ∧
    (numbersOfRows.through [.wildcard] (.index 1) [.child "id"]).run rows .null = .ok [.ofNat 2, .ofNat 4] ∧
    (numbersOfRows.through [.wildcard] (.index 0) [.child "id"]).run rows .null = .ok [.ofNat 1, .ofNat 3] ∧
    [.ofNat 2, .ofNat 1, .ofNat 2, .ofNat 4, .ofNat 3, .ofNat 4].Perm
      ([[.ofNat 2, .ofNat 4], [.ofNat 1, .ofNat 3], [.ofNat 2, .ofNat 4]] : List (List Json)).flatten := by
  have hSelectors : ([.index 1, .index 0, .index 1] : List Segment) ≠ [] := List.cons_ne_nil _ _
  have hRun : numbersOfRows.run rows .null = .ok [.ofNat 2, .ofNat 1, .ofNat 2, .ofNat 4, .ofNat 3, .ofNat 4] := rfl
  have hSecond : (numbersOfRows.through [.wildcard] (.index 1) [.child "id"]).run rows .null =
      .ok [.ofNat 2, .ofNat 4] := rfl
  have hFirst : (numbersOfRows.through [.wildcard] (.index 0) [.child "id"]).run rows .null =
      .ok [.ofNat 1, .ofNat 3] := rfl
  obtain ⟨-, hMatches⟩ := union_matches_all_selectors numbersOfRows [.wildcard] [.child "id"] hSelectors rows .null
  obtain ⟨hPerm, -⟩ := hMatches _ _ hRun (.cons hSecond (.cons hFirst (.cons hSecond .nil)))
  exact ⟨hSelectors, hRun, hSecond, hFirst, hPerm⟩

end TemplateQuery.Query
