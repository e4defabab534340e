import Mathlib.Data.List.Lex
import Mathlib.Data.List.Sort
import TemplateQuery.Proofs.Query.Composition
import TemplateQuery.Proofs.Query.Places
import TemplateQuery.Proofs.Query.Slices

/-!
# Matches in document order

Read from start to end, a document shows each place once, and their locations grow in the order in which words are sorted:
a value comes before all that is inside it, and what is inside an earlier child before what is inside a later one. A path
whose segments all take the children of a node in order comes to its matches in this order too.
-/
namespace TemplateQuery.Query

/-! ## Reading order -/

section Locations

variable {p q : Location}

theorem append_lt_append_left (location : Location) (h : p < q) : location ++ p < location ++ q :=
  List.Lex.append_left _ h location

theorem lt_append_cons (location : Location) (i : Nat) (rest : Location) : location < location ++ i :: rest := by
  simpa using append_lt_append_left location (List.nil_lt_cons i rest)

/-- Of two locations on one level, the order of all that is inside them is their order. -/
theorem append_lt_append_of_length_eq (h : p < q) (hLength : p.length = q.length) (inside inside' : Location) :
    p ++ inside < q ++ inside' := by
  induction p generalizing q with
  | nil =>
    rw [List.length_nil, eq_comm, List.length_eq_zero_iff] at hLength
    subst hLength
    exact absurd h (lt_irrefl _)
  | cons i p ih =>
    cases q with
    | nil => cases hLength
    | cons j q =>
      rw [List.cons_lt_cons_iff] at h
      rw [List.cons_append, List.cons_append, List.cons_lt_cons_iff]
      rw [List.length_cons, List.length_cons, Nat.add_right_cancel_iff] at hLength
      exact h.imp_right fun ⟨hHead, hTail⟩ => ⟨hHead, ih hTail hLength⟩

end Locations

/-- The first place comes before the second one when the document is read from start to end. -/
def Place.Before (p q : Place) : Prop := p.location < q.location

instance : Std.Antisymm Place.Before := ⟨fun _ _ h h' => absurd h' (lt_asymm h)⟩

/-- Places in the order in which the document shows them, none of them twice. -/
def InOrder (places : List Place) : Prop := places.Pairwise Place.Before

section Reading

variable {document : Json}

theorem exists_location_of_mem_placesFromItems {items : List Json}
    (ih : ∀ x ∈ items, ∀ below : Location, ∀ q ∈ placesFrom below x, ∃ rest, q.location = below ++ rest)
    (location : Location) (first : Nat) :
    ∀ q ∈ placesFromItems location first items, ∃ i rest, first ≤ i ∧ q.location = location ++ i :: rest := by
  induction items generalizing first with
  | nil => exact List.forall_mem_nil _
  | cons x items ihItems =>
    rw [List.forall_mem_cons] at ih
    refine List.forall_mem_append.2 ⟨fun q hq => ?_, fun q hq => ?_⟩
    · obtain ⟨rest, hRest⟩ := ih.1 _ q hq
      exact ⟨first, rest, le_rfl, by rw [hRest, List.append_assoc, List.singleton_append]⟩
    · obtain ⟨i, rest, hFirst, hRest⟩ := ihItems ih.2 (first + 1) q hq
      exact ⟨i, rest, by omega, hRest⟩

/-- The places of a value stand at its location or below it. -/
theorem exists_location_of_mem_placesFrom :
    ∀ (x : Json) (location : Location), ∀ q ∈ placesFrom location x, ∃ rest, q.location = location ++ rest := by
  refine Json.children_induction fun x ih location => ?_
  rw [placesFrom_eq]
  refine List.forall_mem_cons.2 ⟨⟨[], (List.append_nil _).symm⟩, fun q hq => ?_⟩
  obtain ⟨i, rest, -, hRest⟩ := exists_location_of_mem_placesFromItems ih location 0 q hq
  exact ⟨i :: rest, hRest⟩

theorem inOrder_placesFromItems {items : List Json}
    (ih : ∀ x ∈ items, ∀ below : Location, InOrder (placesFrom below x)) (location : Location) (first : Nat) :
    InOrder (placesFromItems location first items) := by
  induction items generalizing first with
  | nil => exact List.Pairwise.nil
  | cons x items ihItems =>
    rw [List.forall_mem_cons] at ih
    refine List.pairwise_append.2 ⟨ih.1 _, ihItems ih.2 (first + 1), fun p hp q hq => ?_⟩
    obtain ⟨rest, hp⟩ := exists_location_of_mem_placesFrom x _ p hp
    obtain ⟨i, rest', hi, hq⟩ := exists_location_of_mem_placesFromItems
      (fun x _ => exists_location_of_mem_placesFrom x) location (first + 1) q hq
    rw [Place.Before, hp, hq, List.append_assoc, List.singleton_append]
    exact append_lt_append_left location (List.cons_lt_cons_iff.2 (.inl (by omega)))

/-- The places of a value are listed in order. -/
theorem inOrder_placesFrom : ∀ (x : Json) (location : Location), InOrder (placesFrom location x) := by
  refine Json.children_induction fun x ih location => ?_
  rw [placesFrom_eq]
  refine List.pairwise_cons.2 ⟨fun q hq => ?_, inOrder_placesFromItems ih location 0⟩
  obtain ⟨i, rest, -, hRest⟩ := exists_location_of_mem_placesFromItems
    (fun x _ => exists_location_of_mem_placesFrom x) location 0 q hq
  rw [Place.Before, hRest]
  exact lt_append_cons location i rest

theorem mem_placesFromItems {items : List Json} {location : Location} {q : Place} {x : Json} (i first : Nat)
    (hItem : items[i]? = some x) (h : q ∈ placesFrom (location ++ [first + i]) x) :
    q ∈ placesFromItems location first items := by
  induction items generalizing i first with
  | nil => cases hItem
  | cons y items ih =>
    rw [placesFromItems, List.mem_append]
    cases i with
    | zero =>
      cases hItem
      exact .inl h
    | succ i =>
      refine .inr (ih i (first + 1) hItem ?_)
      rwa [Nat.add_right_comm]

/-- All that stands below a value is listed. -/
theorem mem_placesFrom {location below : Location} {x found : Json} (h : x.at? below = some found) :
    ⟨location ++ below, found⟩ ∈ placesFrom location x := by
  induction below generalizing location x with
  | nil =>
    cases h
    rw [placesFrom_eq, List.append_nil]
    exact List.mem_cons_self
  | cons i below ih =>
    obtain ⟨child, hChild, hFound⟩ := Option.bind_eq_some_iff.1 h
    rw [placesFrom_eq]
    refine List.mem_cons_of_mem _ (mem_placesFromItems i 0 hChild ?_)
    rw [Nat.zero_add, List.append_cons location i below]
    exact ih hFound

/-- The list shows just the places of the document. -/
theorem mem_placesFrom_iff {p : Place} : p ∈ placesFrom [] document ↔ p.IsIn document :=
  ⟨isIn_placesFrom document [] rfl p, fun h => mem_placesFrom h⟩

theorem InOrder.nodup {places : List Place} (h : InOrder places) : (places.map Place.location).Nodup := by
  rw [List.Nodup, List.pairwise_map]
  exact h.imp fun hBefore => ne_of_lt hBefore

/-- Places of the document that are in order are found in one reading of it. -/
theorem InOrder.sublist_placesFrom {places : List Place} (h : InOrder places) (hIn : ∀ p ∈ places, p.IsIn document) :
    places.Sublist (placesFrom [] document) := by
  have hSubset : places ⊆ placesFrom [] document := fun p hp => mem_placesFrom_iff.2 (hIn p hp)
  exact List.sublist_of_subperm_of_pairwise (List.subperm_of_subset h.nodup.of_map hSubset) h (inOrder_placesFrom document [])

end Reading

/-! ## Segments that keep the order -/

/-- The segment takes children of a node. -/
def Segment.takesChildren : Segment → Bool
  | .descend _ => false
  | .union _ => false
  | _ => true

/-- The segment takes children of a node, each of them once and in order. -/
def Segment.keepsOrder : Segment → Bool
  | .descend _ => false
  | .union _ => false
  | .slice _ _ step => 0 ≤ step.getD 1
  | _ => true

/-- Places of children of a place, in order. -/
structure ChildrenInOrder (p : Place) (places : List Place) : Prop where
  below : ∀ q ∈ places, ∃ i, q.location = p.location ++ [i]
  inOrder : InOrder places

/-- Places of one level of the document, in order. -/
structure LevelInOrder (depth : Nat) (places : List Place) : Prop where
  depth_eq : ∀ p ∈ places, p.location.length = depth
  inOrder : InOrder places

section Segments

theorem pairwise_toList {α : Type} (r : α → α → Prop) (x : Option α) : x.toList.Pairwise r := by
  cases x <;> simp

theorem slicePositions_increasing (start stop : Option Int) {step : Option Int} (length : Nat) (h : 0 ≤ step.getD 1) :
    (slicePositions start stop step length).Pairwise (· < ·) := by
  rcases Int.lt_or_eq_of_le h with hGap | hGap
  · exact (stepsWhile_slicePositions_up hGap).increasing hGap
  · rw [slicePositions_eq_nil hGap.symm]
    exact List.Pairwise.nil

theorem position?_increasing {i j : Int} (hLess : i < j) {a b : Nat} (ha : position? i = some a)
    (hb : position? j = some b) : a < b := by
  rw [position?, Option.ite_none_left_eq_some] at ha hb
  obtain ⟨hi, ha⟩ := ha
  obtain ⟨hj, hb⟩ := hb
  cases ha
  cases hb
  omega

theorem Segment.positions_increasing {s : Segment} (h : s.keepsOrder = true) (node : Json) :
    (s.positions node).Pairwise (· < ·) := by
  cases s with
  | child name =>
    cases node with
    | object members => exact pairwise_toList _ _
    | _ => exact List.Pairwise.nil
  | index i =>
    cases node with
    | array items => exact pairwise_toList _ _
    | _ => exact List.Pairwise.nil
  | wildcard => exact List.pairwise_lt_range
  | slice start stop step =>
    cases node with
    | array items =>
      have hIncreasing := slicePositions_increasing start stop items.length (of_decide_eq_true h)
      exact hIncreasing.filterMap position? fun i j hLess a ha b hb => position?_increasing hLess ha hb
    | _ => exact List.Pairwise.nil
  | _ => exact List.Pairwise.nil

theorem Place.location_of_child? {p q : Place} {i : Nat} (h : p.child? i = some q) : q.location = p.location ++ [i] := by
  obtain ⟨x, -, rfl⟩ := Option.map_eq_some_iff.1 h
  rfl

theorem Place.below_pick (p : Place) (positions : List Nat) :
    ∀ q ∈ p.pick positions, ∃ i, q.location = p.location ++ [i] := by
  intro q hq
  obtain ⟨i, -, hChild⟩ := List.mem_filterMap.1 hq
  exact ⟨i, location_of_child? hChild⟩

theorem Place.pairwise_pick (p : Place) {positions : List Nat} {r : Nat → Nat → Prop} (h : positions.Pairwise r)
    {below : Location → Location → Prop} (hr : ∀ i j, r i j → below (p.location ++ [i]) (p.location ++ [j])) :
    (p.pick positions).Pairwise fun a b => below a.location b.location := by
  refine h.filterMap p.child? fun i j hPositions a ha b hb => ?_
  rw [location_of_child? ha, location_of_child? hb]
  exact hr i j hPositions

theorem childrenInOrder_pick (p : Place) {positions : List Nat} (h : positions.Pairwise (· < ·)) :
    ChildrenInOrder p (p.pick positions) where
  below := p.below_pick positions
  inOrder := p.pairwise_pick h fun _ _ hLess => append_lt_append_left p.location (List.cons_lt_cons_iff.2 (.inl hLess))

theorem ChildrenInOrder.sublist {p : Place} {places kept : List Place} (h : ChildrenInOrder p places)
    (hKept : kept.Sublist places) : ChildrenInOrder p kept where
  below q hq := h.below q (hKept.subset hq)
  inOrder := List.Pairwise.sublist hKept h.inOrder

theorem sublist_of_keep {α ε : Type} {test : α → Except ε Bool} {xs kept : List α} (h : keep test xs = .ok kept) :
    kept.Sublist xs := by
  induction xs generalizing kept with
  | nil =>
    cases h
    exact List.Sublist.refl _
  | cons x xs ih =>
    obtain ⟨passes, -, h⟩ := bind_eq_ok.1 h
    obtain ⟨more, hMore, h⟩ := bind_eq_ok.1 h
    cases passes <;> cases h
    · exact (ih hMore).cons x
    · exact (ih hMore).cons_cons x

variable {scope : Scope}

/-- A segment that takes children takes those at its positions; a filter, some of those that a wildcard takes. -/
theorem exists_sublist_pick {s : Segment} (h : s.takesChildren = true) {p : Place} {places : List Place}
    (hSelect : selectPlaces scope s p = .ok places) :
    ∃ t : Segment, (t = s ∨ t = .wildcard) ∧ places.Sublist (p.pick (t.positions p.value)) := by
  cases s with
  | descend selector => cases h
  | union selectors => cases h
  | filter test => exact ⟨.wildcard, .inr rfl, sublist_of_keep hSelect⟩
  | _ =>
    cases hSelect
    exact ⟨_, .inl rfl, List.Sublist.refl _⟩

theorem Segment.takesChildren_of_keepsOrder {s : Segment} (h : s.keepsOrder = true) : s.takesChildren = true := by
  cases s <;> first | rfl | exact h

theorem childrenInOrder_selectPlaces {s : Segment} (h : s.keepsOrder = true) {p : Place} {places : List Place}
    (hSelect : selectPlaces scope s p = .ok places) : ChildrenInOrder p places := by
  obtain ⟨t, hSegment, hSublist⟩ := exists_sublist_pick (Segment.takesChildren_of_keepsOrder h) hSelect
  have hKeeps : t.keepsOrder = true := by
    rcases hSegment with rfl | rfl
    · exact h
    · rfl
  exact (childrenInOrder_pick p (t.positions_increasing hKeeps p.value)).sublist hSublist

theorem LevelInOrder.gather {depth : Nat} {f : Place → Except Error (List Place)} {places next : List Place}
    (h : LevelInOrder depth places) (hChildren : ∀ p found, f p = .ok found → ChildrenInOrder p found)
    (hNext : gather f places = .ok next) : LevelInOrder (depth + 1) next where
  depth_eq q hq := by
    obtain ⟨p, hp, found, hFound, hMem⟩ := (mem_gather_iff hNext q).1 hq
    obtain ⟨i, hLocation⟩ := (hChildren p found hFound).below q hMem
    rw [hLocation, List.length_append, h.depth_eq p hp, List.length_singleton]
  inOrder := by
    refine pairwise_gather hNext h.inOrder (fun p _ found hFound => (hChildren p found hFound).inOrder) ?_
    intro p hp q hq hBefore found found' hFound hFound' a ha b hb
    obtain ⟨i, hi⟩ := (hChildren p found hFound).below a ha
    obtain ⟨j, hj⟩ := (hChildren q found' hFound').below b hb
    have hLength : p.location.length = q.location.length := (h.depth_eq p hp).trans (h.depth_eq q hq).symm
    rw [Place.Before, hi, hj]
    exact append_lt_append_of_length_eq hBefore hLength [i] [j]

/-- A path whose segments keep the order comes to places of one level, in order. -/
theorem LevelInOrder.followPlaces {segments : List Segment} (hSegments : ∀ s ∈ segments, s.keepsOrder = true)
    {depth : Nat} {places found : List Place} (h : LevelInOrder depth places)
    (hFound : followPlaces scope segments places = .ok found) : LevelInOrder (depth + segments.length) found := by
  induction segments generalizing depth places with
  | nil =>
    cases hFound
    exact h
  | cons s rest ih =>
    rw [List.forall_mem_cons] at hSegments
    obtain ⟨next, hNext, hRest⟩ := bind_eq_ok.1 hFound
    have hLevel := h.gather (fun p found => childrenInOrder_selectPlaces hSegments.1) hNext
    rw [List.length_cons, Nat.add_comm rest.length, ← Nat.add_assoc]
    exact ih hSegments.2 hLevel hRest

end Segments

/-- The values that a query matches are the values at locations of the document. If all its segments keep the order, these
locations grow, so that none of them comes twice, and the matches are found in one reading of the document. -/
theorem matches_stand_in_document {query : Compiled} {document extra : Json} {values : List Json}
    (h : query.run document extra = .ok values) :
    ∃ places, query.places document extra = .ok places ∧ values = places.map Place.value ∧
      (∀ p ∈ places, document.at? p.location = some p.value) ∧
      ((∀ s ∈ query.segments, s.keepsOrder = true) →
        (places.map Place.location).Pairwise (· < ·) ∧ (places.map Place.location).Nodup ∧
        places.Sublist (placesFrom [] document)) := by
  rw [query.run_eq_valuesOf_places, valuesOf, map_eq_ok] at h
  obtain ⟨places, hPlaces, rfl⟩ := h
  have hIn : ∀ p ∈ places, p.IsIn document := query.allIn_places document extra places hPlaces
  refine ⟨places, hPlaces, rfl, hIn, fun hSegments => ?_⟩
  have hStart : LevelInOrder 0 [(⟨[], document⟩ : Place)] :=
    ⟨List.forall_mem_singleton.2 rfl, List.pairwise_singleton _ _⟩
  have hOrder : InOrder places := (hStart.followPlaces hSegments hPlaces).inOrder
  exact ⟨List.pairwise_map.2 hOrder, hOrder.nodup, hOrder.sublist_placesFrom hIn⟩

/-- The names of all members of age, in teams but the first: `$.teams[1:][?@.age >= 18].name`. -/
def namesOfAge : Compiled where
  source := "$.teams[1:][?@.age >= 18].name"
  segments := [.child "teams", .slice (some 1) none none,
    .filter (.compare (.path .current [.child "age"]) .greaterEqual (.literal (.ofNat 18))), .child "name"]
  functions := []

def teams : Json :=
  .object [("teams", .array [.array [.object [("name", .string "Ada"), ("age", .ofNat 36)]],
    .array [.object [("age", .ofNat 18), ("name", .string "Eve")], .object [("name", .string "Tim"), ("age", .ofNat 9)]],
    .array [.object [("name", .string "Eve"), ("age", .ofNat 40)]]])]

/-- Two members of one name stand at two places, the first before the second. -/
theorem matches_stand_in_document_teams :
    namesOfAge.run teams .null = .ok [.string "Eve", .string "Eve"] ∧
    ∃ places, namesOfAge.places teams .null = .ok places ∧ places.map Place.value = [.string "Eve", .string "Eve"] ∧
      (places.map Place.location).Pairwise (· < ·) ∧ places.Sublist (placesFrom [] teams) := by
  have hRun : namesOfAge.run teams .null = .ok [.string "Eve", .string "Eve"] := rfl
  have hSegments : ∀ s ∈ namesOfAge.segments, s.keepsOrder = true := by simp [namesOfAge, Segment.keepsOrder]
  obtain ⟨places, hPlaces, hValues, -, hOrder⟩ := matches_stand_in_document hRun
  obtain ⟨hIncreasing, -, hSublist⟩ := hOrder hSegments
  exact ⟨hRun, places, hPlaces, hValues.symm, hIncreasing, hSublist⟩

end TemplateQuery.Query
