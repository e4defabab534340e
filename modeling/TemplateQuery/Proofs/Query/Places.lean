import TemplateQuery.Proofs.Json.Alike
import TemplateQuery.Proofs.Query.Everywhere
import TemplateQuery.Proofs.Steps
import TemplateQuery.Query.Selection

/-!
# Where matches stand

A query gives values, but it takes them from places: each of them stands somewhere in the document, and its location
says where, level by level. Here places are selected in the way values are. Without their locations they are the values that
the query gives, and at the location of each of them stands just its value.
-/
namespace TemplateQuery

/-! ## Locations -/

/-- The way from a value to one inside it: on every level, the position among the children. -/
abbrev Location := List Nat

/-- The value at a location. -/
def Json.at? (x : Json) : Location → Option Json
  | [] => some x
  | i :: rest => x.children[i]?.bind fun child => child.at? rest

theorem Json.at?_append (x : Json) (location more : Location) :
    x.at? (location ++ more) = (x.at? location).bind fun found => found.at? more := by
  induction location generalizing x with
  | nil => rfl
  | cons i rest ih =>
    rw [List.cons_append, at?, at?, Option.bind_assoc]
    exact congrArg _ (funext ih)

namespace Query

/-- A value with its location in a document. -/
structure Place where
  location : Location
  value : Json

namespace Place

def child? (p : Place) (i : Nat) : Option Place := p.value.children[i]?.map fun child => ⟨p.location ++ [i], child⟩

/-- The children at some positions. -/
def pick (p : Place) (positions : List Nat) : List Place := positions.filterMap p.child?

def children (p : Place) : List Place := p.pick (List.range p.value.children.length)

end Place

mutual

/-- A value that stands at a location, and every value below it, in the order of `descendants`. -/
def placesFrom (location : Location) : Json → List Place
  | .array items => ⟨location, .array items⟩ :: placesFromItems location 0 items
  | .object members => ⟨location, .object members⟩ :: placesFromMembers location 0 members
  | scalar => [⟨location, scalar⟩]
termination_by structural x => x

def placesFromItems (location : Location) (first : Nat) : List Json → List Place
  | [] => []
  | x :: rest => placesFrom (location ++ [first]) x ++ placesFromItems location (first + 1) rest
termination_by structural items => items

def placesFromMembers (location : Location) (first : Nat) : List (String × Json) → List Place
  | [] => []
  | (_, x) :: rest => placesFrom (location ++ [first]) x ++ placesFromMembers location (first + 1) rest
termination_by structural members => members

end

/-! ## Selection -/

/-- An integer that is the position of something. -/
def position? (i : Int) : Option Nat := if i < 0 then none else some i.toNat

/-- The positions of the children that a segment takes from a value by its form alone. -/
def Segment.positions : Segment → Json → List Nat
  | .child name, .object members => (members.findIdx? fun member => member.1 = name).toList
  | .index i, .array items => (position? (fromStart items.length i)).toList
  | .wildcard, node => List.range node.children.length
  | .slice start stop step, .array items => (slicePositions start stop step items.length).filterMap position?
  | _, _ => []

mutual

/-- The places that one segment selects from a place. -/
def selectPlaces (scope : Scope) : Segment → Place → Except Error (List Place)
  | .descend selector, p => gather (selectPlaces scope selector) (placesFrom p.location p.value)
  | .union selectors, p => selectPlacesEach scope selectors p
  | .filter test, p =>
    keep (fun child => do
      let operand ← evaluate scope test child.value
      return operand.isTruthy) p.children
  | s, p => .ok (p.pick (s.positions p.value))
termination_by structural s => s

def selectPlacesEach (scope : Scope) : List Segment → Place → Except Error (List Place)
  | [], _ => .ok []
  | selector :: rest, p => do
    let xs ← selectPlaces scope selector p
    let ys ← selectPlacesEach scope rest p
    return xs ++ ys
termination_by structural selectors => selectors

end

/-- The selectors that a segment is made of. -/
def Segment.selectors : Segment → List Segment
  | .descend selector => [selector]
  | .union selectors => selectors
  | _ => []

/-- What holds of a segment whenever it holds of the selectors it is made of holds of every segment. -/
theorem selectors_induction {P : Segment → Prop} (step : ∀ s : Segment, (∀ t ∈ s.selectors, P t) → P s) : ∀ s, P s := by
  have h : Hereditary P fun _ => True :=
    { child := fun _ => step _ (List.forall_mem_nil P)
      index := fun _ => step _ (List.forall_mem_nil P)
      wildcard := step _ (List.forall_mem_nil P)
      descend := fun _ ih => step _ (List.forall_mem_singleton.2 ih)
      slice := fun _ _ _ => step _ (List.forall_mem_nil P)
      union := fun _ ih => step _ ih
      filter := fun _ _ => step _ (List.forall_mem_nil P)
      literal := fun _ => trivial
      path := fun _ _ _ => trivial
      call := fun _ _ _ => trivial
      not := fun _ _ => trivial
      and := fun _ _ _ _ => trivial
      or := fun _ _ _ _ => trivial
      compare := fun _ _ _ _ _ => trivial }
  exact h.segment

/-- The places at the end of a path from the given ones. -/
def followPlaces (scope : Scope) : List Segment → List Place → Except Error (List Place)
  | [], places => .ok places
  | segment :: rest, places => do
    let next ← gather (selectPlaces scope segment) places
    followPlaces scope rest next

/-- The places of the matches in a document, in match order. -/
def Compiled.places (query : Compiled) (document extra : Json) : Except Error (List Place) :=
  followPlaces ⟨document, extra, query.functions⟩ query.segments [⟨[], document⟩]

/-! ## Values without locations -/

section Values

theorem get?_eq_findIdx? (members : List (String × Json)) (name : String) :
    Dict.get? members name =
      (members.findIdx? fun member => member.1 = name).bind fun i => (Dict.values members)[i]? := by
  induction members with
  | nil => rfl
  | cons member rest ih =>
    obtain ⟨key, x⟩ := member
    by_cases h : key = name
    · simp [Dict.get?, Dict.values, List.findIdx?_cons, h]
    · rw [Dict.get?, if_neg h, ih, List.findIdx?_cons]
      simp only [h, decide_false, Bool.false_eq_true, if_false, Option.bind_map]
      rfl

theorem elementAt?_eq {α : Type} (items : List α) (i : Int) :
    elementAt? items i = (position? i).bind fun position => items[position]? := by
  rw [elementAt?, position?]
  split <;> rfl

/-- An index in range is a position of the list, and any other one is none. -/
theorem atIndex?_eq {α : Type} (items : List α) (i : Int) :
    atIndex? items i = (position? (fromStart items.length i)).bind fun position => items[position]? := by
  rw [atIndex?, position?]
  by_cases hBefore : fromStart items.length i < 0
  · rw [if_neg (by omega), if_pos hBefore, Option.bind_none]
  · rw [if_neg hBefore, Option.bind_some]
    split
    · rfl
    · exact (List.getElem?_eq_none (by omega)).symm

theorem filterMap_range {α : Type} (items : List α) :
    (List.range items.length).filterMap (fun i => items[i]?) = items := by
  induction items with
  | nil => rfl
  | cons x rest ih => simpa [List.range_succ_eq_map, List.filterMap_map] using ih

theorem Place.map_value_pick (p : Place) (positions : List Nat) :
    (p.pick positions).map Place.value = positions.filterMap fun i => p.value.children[i]? := by
  rw [pick, List.map_filterMap]
  refine List.filterMap_congr fun i _ => ?_
  rw [child?, Option.map_map]
  exact Option.map_id'

theorem Place.map_value_children (p : Place) : p.children.map Place.value = p.value.children := by
  rw [children, map_value_pick, filterMap_range]

theorem filterMap_toList {α β : Type} (x : Option α) (f : α → Option β) :
    x.toList.filterMap f = (x.bind f).toList := by
  cases x with
  | none => rfl
  | some a => cases h : f a <;> simp [h]

theorem filterMap_positions_child (name : String) (node : Json) :
    ((Segment.child name).positions node).filterMap (fun i => node.children[i]?) = (node.get? name).toList := by
  cases node with
  | object members =>
    rw [Segment.positions, filterMap_toList, Json.get?, get?_eq_findIdx?]
    rfl
  | _ => rfl

theorem filterMap_positions_index (i : Int) (node : Json) :
    ((Segment.index i).positions node).filterMap (fun i => node.children[i]?) = elementNodes i node := by
  cases node with
  | array items =>
    rw [Segment.positions, filterMap_toList, elementNodes, atIndex?_eq]
    rfl
  | _ => rfl

theorem filterMap_positions_slice (start stop step : Option Int) (node : Json) :
    ((Segment.slice start stop step).positions node).filterMap (fun i => node.children[i]?) =
      sliceNodes start stop step node := by
  cases node with
  | array items =>
    rw [Segment.positions, List.filterMap_filterMap, sliceNodes, slice]
    exact List.filterMap_congr fun i _ => (elementAt?_eq items i).symm
  | _ => rfl

theorem placesFromMembers_eq (location : Location) (first : Nat) (members : List (String × Json)) :
    placesFromMembers location first members = placesFromItems location first (Dict.values members) := by
  induction members generalizing first with
  | nil => rfl
  | cons member rest ih => exact congrArg _ (ih (first + 1))

/-- A value comes before all that is below it. -/
theorem placesFrom_eq (location : Location) (x : Json) :
    placesFrom location x = ⟨location, x⟩ :: placesFromItems location 0 x.children := by
  cases x with
  | object members => exact congrArg _ (placesFromMembers_eq location 0 members)
  | _ => rfl

mutual

theorem map_value_placesFrom (location : Location) : ∀ x, (placesFrom location x).map Place.value = descendants x
  | .null => rfl
  | .bool _ => rfl
  | .number _ => rfl
  | .string _ => rfl
  | .array items => congrArg _ (map_value_placesFromItems location 0 items)
  | .object members => congrArg _ (map_value_placesFromMembers location 0 members)
termination_by structural x => x

theorem map_value_placesFromItems (location : Location) (first : Nat) : ∀ items,
    (placesFromItems location first items).map Place.value = descendantsOfItems items
  | [] => rfl
  | x :: rest => by
    rw [placesFromItems, List.map_append, map_value_placesFrom _ x, map_value_placesFromItems _ _ rest]
    rfl
termination_by structural items => items

theorem map_value_placesFromMembers (location : Location) (first : Nat) : ∀ members,
    (placesFromMembers location first members).map Place.value = descendantsOfMembers members
  | [] => rfl
  | (_, x) :: rest => by
    rw [placesFromMembers, List.map_append, map_value_placesFrom _ x, map_value_placesFromMembers _ _ rest]
    rfl
termination_by structural members => members

end

end Values

/-! ## Selecting without locations -/

section Selection

/-- The values of the places that a selection comes to. -/
def valuesOf (x : Except Error (List Place)) : Except Error (List Json) := x.map (List.map Place.value)

theorem valuesOf_append (x y : Except Error (List Place)) :
    valuesOf (do
      let xs ← x
      let ys ← y
      return xs ++ ys) = (do
      let xs ← valuesOf x
      let ys ← valuesOf y
      return xs ++ ys) := by
  cases x with
  | error e => rfl
  | ok xs =>
    cases y with
    | error e => rfl
    | ok ys => exact congrArg _ List.map_append

theorem valuesOf_gather {f : Place → Except Error (List Place)} {g : Json → Except Error (List Json)}
    (h : ∀ p, valuesOf (f p) = g p.value) (places : List Place) :
    valuesOf (gather f places) = gather g (places.map Place.value) := by
  induction places with
  | nil => rfl
  | cons p rest ih => rw [gather, valuesOf_append, h, ih, List.map_cons, gather]

theorem valuesOf_keep (test : Json → Except Error Bool) (places : List Place) :
    valuesOf (keep (fun p => test p.value) places) = keep test (places.map Place.value) := by
  induction places with
  | nil => rfl
  | cons p rest ih =>
    rw [keep, List.map_cons, keep, ← ih]
    cases test p.value with
    | error e => rfl
    | ok passes => cases keep (fun p => test p.value) rest <;> cases passes <;> rfl

variable (scope : Scope)

theorem valuesOf_selectPlacesEach {selectors : List Segment}
    (h : ∀ s ∈ selectors, ∀ p, valuesOf (selectPlaces scope s p) = select scope s p.value) (p : Place) :
    valuesOf (selectPlacesEach scope selectors p) = selectEach scope selectors p.value := by
  induction selectors with
  | nil => rfl
  | cons s rest ih =>
    rw [List.forall_mem_cons] at h
    rw [selectPlacesEach, valuesOf_append, h.1, ih h.2, selectEach]

/-- Without their locations the selected places are the selected values. -/
theorem valuesOf_selectPlaces : ∀ s p, valuesOf (selectPlaces scope s p) = select scope s p.value := by
  refine selectors_induction fun s ih p => ?_
  cases s with
  | child name => exact congrArg Except.ok ((p.map_value_pick _).trans (filterMap_positions_child name p.value))
  | index i => exact congrArg Except.ok ((p.map_value_pick _).trans (filterMap_positions_index i p.value))
  | wildcard => exact congrArg Except.ok p.map_value_children
  | descend selector =>
    rw [selectPlaces, valuesOf_gather (ih selector List.mem_cons_self), map_value_placesFrom, select]
  | slice start stop step =>
    exact congrArg Except.ok ((p.map_value_pick _).trans (filterMap_positions_slice start stop step p.value))
  | union selectors => exact valuesOf_selectPlacesEach scope ih p
  | filter test =>
    rw [selectPlaces, select, ← p.map_value_children]
    exact valuesOf_keep (fun child => do
      let operand ← evaluate scope test child
      return operand.isTruthy) p.children

theorem valuesOf_followPlaces (segments : List Segment) (places : List Place) :
    valuesOf (followPlaces scope segments places) = follow scope segments (places.map Place.value) := by
  induction segments generalizing places with
  | nil => rfl
  | cons s rest ih =>
    rw [followPlaces, follow, ← valuesOf_gather (valuesOf_selectPlaces scope s)]
    cases gather (selectPlaces scope s) places with
    | error e => rfl
    | ok next => exact ih next

end Selection

/-! ## Values at their locations -/

/-- The place is one of the document. -/
def Place.IsIn (document : Json) (p : Place) : Prop := document.at? p.location = some p.value

/-- All places that a selection comes to are places of the document. -/
def AllIn (document : Json) (x : Except Error (List Place)) : Prop :=
  ∀ places, x = .ok places → ∀ p ∈ places, p.IsIn document

section Locations

variable {document : Json}

theorem Place.IsIn.child {p q : Place} (h : p.IsIn document) {i : Nat} (hChild : p.child? i = some q) :
    q.IsIn document := by
  obtain ⟨x, hx, rfl⟩ := Option.map_eq_some_iff.1 hChild
  rw [IsIn] at h ⊢
  rw [Json.at?_append, h, Option.bind_some, Json.at?, hx]
  rfl

theorem Place.IsIn.pick {p : Place} (h : p.IsIn document) (positions : List Nat) :
    ∀ q ∈ p.pick positions, q.IsIn document := by
  intro q hq
  obtain ⟨i, -, hChild⟩ := List.mem_filterMap.1 hq
  exact h.child hChild

theorem isIn_placesFromItems {location : Location} {items : List Json}
    (ih : ∀ x ∈ items, ∀ below : Location, document.at? below = some x → ∀ q ∈ placesFrom below x, q.IsIn document)
    (first : Nat) (hItems : ∀ i x, items[i]? = some x → document.at? (location ++ [first + i]) = some x) :
    ∀ q ∈ placesFromItems location first items, q.IsIn document := by
  induction items generalizing first with
  | nil => exact List.forall_mem_nil _
  | cons x rest ihRest =>
    rw [List.forall_mem_cons] at ih
    refine List.forall_mem_append.2 ⟨ih.1 _ (hItems 0 x rfl), ihRest ih.2 (first + 1) fun i y hy => ?_⟩
    rw [Nat.add_right_comm]
    exact hItems (i + 1) y hy

theorem isIn_placesFrom : ∀ (x : Json) (location : Location), document.at? location = some x →
    ∀ q ∈ placesFrom location x, q.IsIn document := by
  refine Json.children_induction fun x ih location hx => ?_
  rw [placesFrom_eq]
  refine List.forall_mem_cons.2 ⟨hx, isIn_placesFromItems ih 0 fun i y hy => ?_⟩
  rw [Json.at?_append, hx, Option.bind_some, Json.at?, Nat.zero_add, hy]
  rfl

theorem allIn_append {x y : Except Error (List Place)} (hx : AllIn document x) (hy : AllIn document y) :
    AllIn document (do
      let xs ← x
      let ys ← y
      return xs ++ ys) := by
  intro places h
  obtain ⟨xs, hxs, h⟩ := bind_eq_ok.1 h
  obtain ⟨ys, hys, h⟩ := bind_eq_ok.1 h
  cases h
  exact List.forall_mem_append.2 ⟨hx xs hxs, hy ys hys⟩

theorem allIn_nil : AllIn document (.ok []) := by
  rintro _ ⟨rfl⟩
  exact List.forall_mem_nil _

theorem allIn_gather {f : Place → Except Error (List Place)} {places : List Place}
    (h : ∀ p ∈ places, AllIn document (f p)) : AllIn document (gather f places) := by
  induction places with
  | nil => exact allIn_nil
  | cons p rest ih =>
    rw [List.forall_mem_cons] at h
    exact allIn_append h.1 (ih h.2)

theorem allIn_keep {test : Place → Except Error Bool} {places : List Place} (h : ∀ p ∈ places, p.IsIn document) :
    AllIn document (keep test places) := by
  induction places with
  | nil => exact allIn_nil
  | cons p rest ih =>
    rw [List.forall_mem_cons] at h
    intro kept hKept
    obtain ⟨passes, -, hRest⟩ := bind_eq_ok.1 hKept
    obtain ⟨more, hMore, hAll⟩ := bind_eq_ok.1 hRest
    have hIn := ih h.2 more hMore
    cases passes <;> cases hAll
    · exact hIn
    · exact List.forall_mem_cons.2 ⟨h.1, hIn⟩

variable (scope : Scope)

theorem allIn_selectPlacesEach {selectors : List Segment} {p : Place}
    (h : ∀ s ∈ selectors, AllIn document (selectPlaces scope s p)) :
    AllIn document (selectPlacesEach scope selectors p) := by
  induction selectors with
  | nil => exact allIn_nil
  | cons s rest ih =>
    rw [List.forall_mem_cons] at h
    exact allIn_append h.1 (ih h.2)

theorem allIn_pick {p : Place} (h : p.IsIn document) (positions : List Nat) :
    AllIn document (.ok (p.pick positions)) := by
  rintro _ ⟨rfl⟩
  exact h.pick positions

theorem allIn_selectPlaces : ∀ s, ∀ p : Place, p.IsIn document → AllIn document (selectPlaces scope s p) := by
  refine selectors_induction fun s ih p h => ?_
  cases s with
  | descend selector =>
    exact allIn_gather fun q hq => ih selector List.mem_cons_self q (isIn_placesFrom p.value p.location h q hq)
  | union selectors => exact allIn_selectPlacesEach scope fun s hs => ih s hs p h
  | filter test => exact allIn_keep (h.pick _)
  | _ => exact allIn_pick h _

theorem allIn_followPlaces (segments : List Segment) {places : List Place} (h : ∀ p ∈ places, p.IsIn document) :
    AllIn document (followPlaces scope segments places) := by
  induction segments generalizing places with
  | nil =>
    rintro _ ⟨rfl⟩
    exact h
  | cons s rest ih =>
    intro found hFound
    obtain ⟨next, hNext, hRest⟩ := bind_eq_ok.1 hFound
    have hIn := allIn_gather (fun p hp => allIn_selectPlaces scope s p (h p hp)) next hNext
    exact ih hIn found hRest

end Locations

/-- The matches of a query are places of the document. -/
theorem Compiled.allIn_places (query : Compiled) (document extra : Json) :
    AllIn document (query.places document extra) :=
  allIn_followPlaces _ _ (by simp [Place.IsIn, Json.at?])

/-- The matches of a query are the values of their places. -/
theorem Compiled.run_eq_valuesOf_places (query : Compiled) (document extra : Json) :
    query.run document extra = valuesOf (query.places document extra) :=
  (valuesOf_followPlaces _ query.segments [⟨[], document⟩]).symm

end Query

end TemplateQuery
