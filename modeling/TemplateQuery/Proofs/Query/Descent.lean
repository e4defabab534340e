import TemplateQuery.Proofs.Query.DocumentOrder

/-!
# Descent

A descent asks every value of the document, each before what is inside it, for the children that its selector takes. So it
comes to each of them once, and to none before a match that contains it. But the children of one value stand together in the
list, and what is inside the first of them comes after the last. So the matches by name are sorted by the value that they are
members of, which is the order of the document only if none of them lies inside an earlier sibling of another.
-/
namespace TemplateQuery.Query

/-! ## Selectors that take children -/

/-- The segment selects the second place from the first one. -/
def Segment.Selects (scope : Scope) (s : Segment) (p q : Place) : Prop :=
  ∃ places, selectPlaces scope s p = .ok places ∧ q ∈ places

/-- Places of children of a place, each of them once. -/
structure DistinctChildren (p : Place) (places : List Place) : Prop where
  below : ∀ q ∈ places, ∃ i, q.location = p.location ++ [i]
  nodup : (places.map Place.location).Nodup

/-- The second place is the first one or lies inside it. -/
def Place.Contains (p q : Place) : Prop := p.location <+: q.location

section Children

variable {scope : Scope} {s : Segment} {p q : Place} {places kept : List Place}

theorem Segment.positions_nodup (s : Segment) (node : Json) : (s.positions node).Nodup := by
  cases s with
  | descend selector => exact List.nodup_nil
  | union selectors => exact List.nodup_nil
  | slice start stop step =>
    cases node with
    | array items =>
      refine slicePositions_nodup.filterMap fun i j b hi hj => ?_
      rw [Option.mem_def, position?, Option.ite_none_left_eq_some] at hi hj
      simp only [Option.some.injEq] at hi hj
      omega
    | _ => exact List.nodup_nil
  | _ => exact (Segment.positions_increasing rfl node).imp Nat.ne_of_lt

theorem distinctChildren_pick (p : Place) {positions : List Nat} (h : positions.Nodup) :
    DistinctChildren p (p.pick positions) where
  below := p.below_pick positions
  nodup := List.pairwise_map.2 (p.pairwise_pick h fun i j hNe => by simpa using hNe)

theorem DistinctChildren.sublist (h : DistinctChildren p places) (hKept : kept.Sublist places) :
    DistinctChildren p kept where
  below q hq := h.below q (hKept.subset hq)
  nodup := (hKept.map _).nodup h.nodup

theorem distinctChildren_selectPlaces (h : s.takesChildren = true) (hSelect : selectPlaces scope s p = .ok places) :
    DistinctChildren p places := by
  obtain ⟨t, -, hSublist⟩ := exists_sublist_pick h hSelect
  exact (distinctChildren_pick p (t.positions_nodup p.value)).sublist hSublist

/-- Children of one place do not contain each other. -/
theorem DistinctChildren.pairwise (h : DistinctChildren p places) : places.Pairwise fun a b => ¬b.Contains a := by
  have hDistinct : places.Pairwise fun a b => a.location ≠ b.location := List.pairwise_map.1 h.nodup
  refine hDistinct.imp_of_mem fun {a b} ha hb hNe hContains => ?_
  obtain ⟨i, hi⟩ := h.below a ha
  obtain ⟨j, hj⟩ := h.below b hb
  exact hNe (hContains.eq_of_length (by simp [hi, hj])).symm

/-- A child of a value does not contain children of values before it. -/
theorem Place.Before.not_contains {a b : Place} (h : p.Before q) {i j : Nat} (ha : a.location = p.location ++ [i])
    (hb : b.location = q.location ++ [j]) : ¬b.Contains a := by
  rw [Contains, ha, hb, List.prefix_concat_iff]
  rintro (hEq | ⟨rest, hRest⟩)
  · have hLocation : q.location = p.location := (List.append_inj' hEq rfl).1
    rw [Before, hLocation] at h
    exact lt_irrefl _ h
  · have hAfter : q.location < p.location := by
      rw [← hRest, List.append_assoc]
      exact lt_append_cons q.location j rest
    exact lt_asymm h hAfter

end Children

/-! ## What a descent comes to -/

/-- A query that is one descent asks all values of the document. -/
theorem Compiled.places_eq_gather {query : Compiled} {s : Segment} (h : query.segments = [.descend s])
    (document extra : Json) :
    query.places document extra = gather (selectPlaces (query.scope document extra) s) (placesFrom [] document) := by
  simp only [places, h, scope, followPlaces, gather, selectPlaces]
  cases gather (selectPlaces ⟨document, extra, query.functions⟩ s) (placesFrom [] document) with
  | error e => rfl
  | ok found => simp

section Descent

variable {scope : Scope} {s : Segment} {document : Json} {places : List Place}

/-- What holds of any two children of one place, in the order in which they are selected, and of a child of one place and a
child of a later one, holds along the matches of a descent. -/
theorem pairwise_of_descent (hChildren : s.takesChildren = true)
    (h : gather (selectPlaces scope s) (placesFrom [] document) = .ok places) {r : Place → Place → Prop}
    (hOne : ∀ p found, selectPlaces scope s p = .ok found → found.Pairwise r)
    (hTwo : ∀ {p q a b : Place} {i j : Nat}, p.Before q → a.location = p.location ++ [i] →
      b.location = q.location ++ [j] → r a b) :
    places.Pairwise r := by
  refine pairwise_gather h (inOrder_placesFrom document []) (fun p _ => hOne p) ?_
  intro p _ q _ hBefore found found' hFound hFound' a ha b hb
  obtain ⟨i, hi⟩ := (distinctChildren_selectPlaces hChildren hFound).below a ha
  obtain ⟨j, hj⟩ := (distinctChildren_selectPlaces hChildren hFound').below b hb
  exact hTwo hBefore hi hj

/-- Every place of the document but the document itself is a child of another one. -/
theorem exists_parent_iff {q : Place} :
    (∃ p : Place, p.IsIn document ∧ Segment.wildcard.Selects scope p q) ↔ q.IsIn document ∧ q.location ≠ [] := by
  constructor
  · rintro ⟨p, hp, places, hPlaces, hq⟩
    cases hPlaces
    obtain ⟨i, hi⟩ := p.below_pick _ q hq
    exact ⟨hp.pick _ q hq, by simp [hi]⟩
  · rintro ⟨hq, hLocation⟩
    obtain ⟨location, i, hLocation⟩ := (List.eq_nil_or_concat q.location).resolve_left hLocation
    rw [Place.IsIn, hLocation, List.concat_eq_append, Json.at?_append, Option.bind_eq_some_iff] at hq
    obtain ⟨x, hx, hChild⟩ := hq
    have hChild : x.children[i]? = some q.value := by simpa [Json.at?] using hChild
    have hIndex : i < x.children.length := (List.getElem?_eq_some_iff.1 hChild).1
    refine ⟨⟨location, x⟩, hx, _, rfl, List.mem_filterMap.2 ⟨i, List.mem_range.2 hIndex, ?_⟩⟩
    rw [Place.child?, hChild, Option.map_some, ← List.concat_eq_append, ← hLocation]

end Descent

/-- A descent that does not fail matches what its selector selects from some value of the document, the document itself
included. Each match is listed once, and none before another one that contains it. -/
theorem descent_matches_each_selection_once {query : Compiled} {s : Segment} (hSegments : query.segments = [.descend s])
    (hChildren : s.takesChildren = true) {document extra : Json} {values : List Json}
    (h : query.run document extra = .ok values) :
    ∃ places, query.places document extra = .ok places ∧ values = places.map Place.value ∧
      (∀ p : Place, p.IsIn document → ∃ found, selectPlaces (query.scope document extra) s p = .ok found ∧
        select (query.scope document extra) s p.value = .ok (found.map Place.value)) ∧
      (∀ q, q ∈ places ↔ ∃ p : Place, p.IsIn document ∧ s.Selects (query.scope document extra) p q) ∧
      (places.map Place.location).Nodup ∧
      (places.Pairwise fun p q => ¬q.Contains p) ∧
      (s = .wildcard → ∀ q, q ∈ places ↔ q.IsIn document ∧ q.location ≠ []) := by
  rw [query.run_eq_valuesOf_places, valuesOf, map_eq_ok] at h
  obtain ⟨places, hPlaces, rfl⟩ := h
  have hGather := hPlaces
  rw [query.places_eq_gather hSegments] at hGather
  have hOnce : places.Pairwise fun p q => ¬q.Contains p :=
    pairwise_of_descent hChildren hGather (fun p found hFound => (distinctChildren_selectPlaces hChildren hFound).pairwise)
      fun hBefore hi hj => hBefore.not_contains hi hj
  have hMem (q : Place) : q ∈ places ↔ ∃ p : Place, p.IsIn document ∧ s.Selects (query.scope document extra) p q := by
    simp only [mem_gather_iff hGather, mem_placesFrom_iff, Segment.Selects]
  refine ⟨places, hPlaces, rfl, fun p hp => ?_, hMem, ?_, hOnce, ?_⟩
  · obtain ⟨found, hFound⟩ := (gather_eq_ok_iff.1 hGather).1 p (mem_placesFrom_iff.2 hp)
    refine ⟨found, hFound, ?_⟩
    rw [← valuesOf_selectPlaces, hFound]
    rfl
  · rw [List.Nodup, List.pairwise_map]
    exact hOnce.imp fun hNot hEq => hNot (by simp [Place.Contains, hEq])
  · rintro rfl q
    rw [hMem, exists_parent_iff]

/-- All that are of age: `$..[?@.age >= 18]`. -/
def allOfAge : Compiled where
  source := "$..[?@.age >= 18]"
  segments := [.descend (.filter (.compare (.path .current [.child "age"]) .greaterEqual (.literal (.ofNat 18))))]
  functions := []

def family : Json :=
  .object [("age", .ofNat 70), ("children", .array [
    .object [("age", .ofNat 40), ("children", .array [.object [("age", .ofNat 20)]])], .object [("age", .ofNat 9)]])]

/-- The second match lies inside the first one. -/
theorem descent_matches_each_selection_once_family :
    let values : List Json := [.object [("age", .ofNat 40), ("children", .array [.object [("age", .ofNat 20)]])],
      .object [("age", .ofNat 20)]]
    allOfAge.run family .null = .ok values ∧
    ∃ places, allOfAge.places family .null = .ok places ∧ values = places.map Place.value ∧
      (places.map Place.location).Nodup ∧ places.Pairwise fun p q => ¬q.Contains p := by
  intro values
  have hRun : allOfAge.run family .null = .ok values := rfl
  obtain ⟨places, hPlaces, hValues, -, -, hNodup, hOnce, -⟩ := descent_matches_each_selection_once (by rfl) (by rfl) hRun
  exact ⟨hRun, places, hPlaces, hValues, hNodup, hOnce⟩

/-! ## Descent by name -/

/-- The location of the value that a place is a child of. -/
def Place.parent (p : Place) : Location := p.location.dropLast

/-- The first place lies inside a sibling that comes before the second one. -/
def Place.InEarlierSibling (q p : Place) : Prop :=
  ∃ parent i j rest, q.location = parent ++ i :: rest ∧ rest ≠ [] ∧ p.location = parent ++ [j] ∧ i < j

section Names

variable {places : List Place} {document : Json}

/-- A child of an earlier value comes before a child of a later one, unless the later value lies inside an earlier sibling
of the first child. -/
theorem append_lt_or_inside {p q : Location} (h : p < q) (i j : Nat) :
    p ++ [i] < q ++ [j] ∨ ∃ k rest, q = p ++ k :: rest ∧ k < i := by
  induction p generalizing q with
  | nil =>
    cases q with
    | nil => exact absurd h (lt_irrefl _)
    | cons k rest =>
      rcases Nat.lt_or_ge k i with hLess | hGreater
      · exact .inr ⟨k, rest, rfl, hLess⟩
      · refine .inl (List.cons_lt_cons_iff.2 ?_)
        rcases Nat.lt_or_eq_of_le hGreater with hLess | rfl
        · exact .inl hLess
        · exact .inr ⟨rfl, by cases rest <;> exact List.nil_lt_cons _ _⟩
  | cons c p ih =>
    cases q with
    | nil => exact absurd h (List.not_lt_nil _)
    | cons d q =>
      rcases List.cons_lt_cons_iff.1 h with hLess | ⟨rfl, hLess⟩
      · exact .inl (List.cons_lt_cons_iff.2 (.inl hLess))
      · rcases ih hLess with hBefore | ⟨k, rest, rfl, hk⟩
        · exact .inl (List.cons_lt_cons_iff.2 (.inr ⟨rfl, hBefore⟩))
        · exact .inr ⟨k, rest, rfl, hk⟩

theorem Place.exists_eq_parent_append (p : Place) (h : p.location ≠ []) : ∃ i, p.location = p.parent ++ [i] :=
  ⟨p.location.getLast h, (List.dropLast_append_getLast h).symm⟩

/-- A list that is sorted by two keys has any two of its elements in the same order by both. -/
theorem lt_iff_lt_of_pairwise {f g : Place → Location} (hf : places.Pairwise fun p q => f p < f q)
    (hg : places.Pairwise fun p q => g p < g q) {p q : Place} (hp : p ∈ places) (hq : q ∈ places) :
    f p < f q ↔ g p < g q := by
  obtain ⟨m, hm, rfl⟩ := List.getElem_of_mem hp
  obtain ⟨n, hn, rfl⟩ := List.getElem_of_mem hq
  rw [List.pairwise_iff_getElem] at hf hg
  rcases Nat.lt_trichotomy m n with hLess | rfl | hGreater
  · exact iff_of_true (hf m n hm hn hLess) (hg m n hm hn hLess)
  · exact iff_of_false (lt_irrefl _) (lt_irrefl _)
  · exact iff_of_false (lt_asymm (hf n m hn hm hGreater)) (lt_asymm (hg n m hn hm hGreater))

/-- Places that are sorted by their parents stand in the order of the document just if none of them lies inside an earlier
sibling of another one. -/
theorem inOrder_iff_of_parents (hParents : places.Pairwise fun p q => p.parent < q.parent)
    (hBelow : ∀ p ∈ places, p.location ≠ []) :
    InOrder places ↔ ∀ p ∈ places, ∀ q ∈ places, ¬q.InEarlierSibling p := by
  constructor
  · intro hOrder p hp q hq ⟨parent, i, j, rest, hInside, hRest, hSibling, hLess⟩
    have hp' : p.parent = parent := by rw [Place.parent, hSibling, List.dropLast_concat]
    have hq' : q.parent = parent ++ i :: rest.dropLast := by
      rw [Place.parent, hInside, List.dropLast_append_cons, List.dropLast_cons_of_ne_nil hRest]
    have hParent : p.parent < q.parent := by
      rw [hp', hq']
      exact lt_append_cons parent i _
    have hAfter : p.location < q.location := (lt_iff_lt_of_pairwise hParents hOrder hp hq).1 hParent
    have hBefore : q.location < p.location := by
      rw [hInside, hSibling]
      exact append_lt_append_left parent (List.cons_lt_cons_iff.2 (.inl hLess))
    exact lt_asymm hAfter hBefore
  · intro hSiblings
    refine hParents.imp_of_mem fun {p q} hp hq hLess => ?_
    obtain ⟨i, hp'⟩ := p.exists_eq_parent_append (hBelow p hp)
    obtain ⟨j, hq'⟩ := q.exists_eq_parent_append (hBelow q hq)
    rw [Place.Before, hp', hq']
    refine (append_lt_or_inside hLess i j).resolve_right ?_
    rintro ⟨k, rest, hInside, hk⟩
    refine hSiblings p hp q hq ⟨p.parent, k, i, rest ++ [j], ?_, by simp, hp', hk⟩
    rw [hq', hInside, List.append_assoc, List.cons_append]

theorem Segment.positions_child_pairwise (name : String) (node : Json) (r : Nat → Nat → Prop) :
    ((Segment.child name).positions node).Pairwise r := by
  cases node with
  | object members => exact pairwise_toList _ _
  | _ => exact List.Pairwise.nil

/-- Members of one name are listed in the order of the objects that they are members of. -/
theorem parents_increasing_of_descent {scope : Scope} {name : String}
    (h : gather (selectPlaces scope (.child name)) (placesFrom [] document) = .ok places) :
    places.Pairwise fun p q => p.parent < q.parent := by
  refine pairwise_of_descent rfl h ?_ ?_
  · rintro p _ ⟨rfl⟩
    exact (Segment.positions_child_pairwise name p.value fun _ _ => False).filterMap _ fun _ _ h => h.elim
  · intro p q a b i j hBefore ha hb
    rwa [Place.parent, Place.parent, ha, hb, List.dropLast_concat, List.dropLast_concat]

end Names

/-- A descent by name never fails. It matches the member of that name of every object in the document that has one, and lists
them in the order of these objects. They stand in the order of the document themselves just if none of them lies inside an
earlier sibling of another one. -/
theorem descent_by_name_sorts_by_parent (source name : String) (functions : FunctionTable) (document extra : Json) :
    ∃ places, Compiled.places ⟨source, [.descend (.child name)], functions⟩ document extra = .ok places ∧
      Compiled.run ⟨source, [.descend (.child name)], functions⟩ document extra = .ok (places.map Place.value) ∧
      (∀ q, q ∈ places ↔ ∃ p : Place, p.IsIn document ∧
        (Segment.child name).Selects ⟨document, extra, functions⟩ p q) ∧
      (places.Pairwise fun p q => p.parent < q.parent) ∧
      (InOrder places ↔ ∀ p ∈ places, ∀ q ∈ places, ¬q.InEarlierSibling p) := by
  obtain ⟨places, hGather⟩ : ∃ places,
      gather (selectPlaces ⟨document, extra, functions⟩ (.child name)) (placesFrom [] document) = .ok places :=
    ⟨_, gather_eq_ok_iff.2 ⟨fun p _ => ⟨_, rfl⟩, rfl⟩⟩
  have hPlaces : Compiled.places ⟨source, [.descend (.child name)], functions⟩ document extra = .ok places := by
    rw [Compiled.places_eq_gather rfl]
    exact hGather
  have hMem (q : Place) : q ∈ places ↔
      ∃ p : Place, p.IsIn document ∧ (Segment.child name).Selects ⟨document, extra, functions⟩ p q := by
    simp only [mem_gather_iff hGather, mem_placesFrom_iff, Segment.Selects]
  have hParents := parents_increasing_of_descent hGather
  refine ⟨places, hPlaces, ?_, hMem, hParents, inOrder_iff_of_parents hParents fun q hq => ?_⟩
  · rw [Compiled.run_eq_valuesOf_places, hPlaces]
    rfl
  · obtain ⟨p, -, found, hFound, hq⟩ := (hMem q).1 hq
    obtain ⟨i, hi⟩ := (distinctChildren_selectPlaces rfl hFound).below q hq
    simp [hi]

def nestedNames : Json := .object [("inner", .object [("name", .ofNat 1)]), ("name", .ofNat 2)]

/-- The name inside the first member stands before the second member, and is listed after it. -/
theorem descent_by_name_leaves_document_order :
    Compiled.run ⟨"$..name", [.descend (.child "name")], []⟩ nestedNames .null = .ok [.ofNat 2, .ofNat 1] ∧
    ∃ places, Compiled.places ⟨"$..name", [.descend (.child "name")], []⟩ nestedNames .null = .ok places ∧
      places.map Place.location = [[1], [0, 0]] ∧ ¬InOrder places := by
  refine ⟨rfl, _, rfl, rfl, fun hOrder => ?_⟩
  have hFirst : ([1] : Location) < [0, 0] := List.rel_of_pairwise_cons hOrder List.mem_cons_self
  exact absurd hFirst (by decide)

end TemplateQuery.Query
