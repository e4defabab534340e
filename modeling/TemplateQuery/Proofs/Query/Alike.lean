import TemplateQuery.Pattern.Reader
import TemplateQuery.Proofs.Query.Failure
import TemplateQuery.Proofs.Query.Places
import TemplateQuery.Proofs.Query.Reading

/-!
# Queries and the spelling of numbers

Run on alike documents, with alike extra values, a query with the standard functions goes the same way in both: all
operands are alike, all comparisons and all functions have the same outcome, and so the matches stand at the same
places.
-/
namespace TemplateQuery.Query

/-! ## Operands and functions -/

/-- Operands of the same kind that hold alike values. -/
inductive Operand.Alike : Operand → Operand → Prop where
  | nothing : Alike .nothing .nothing
  | value {x y : Json} (h : x.Alike y) : Alike (.value x) (.value y)
  | nodes {xs ys : List Json} (h : List.Forall₂ Json.Alike xs ys) : Alike (.nodes xs) (.nodes ys)
  | logical (b : Bool) : Alike (.logical b) (.logical b)

theorem Operand.Alike.refl (x : Operand) : x.Alike x := by
  cases x with
  | nothing => exact .nothing
  | value x => exact .value (Json.Alike.refl x)
  | nodes xs => exact .nodes (List.forall₂_same.2 fun x _ => Json.Alike.refl x)
  | logical b => exact .logical b

section Operands

variable {x y : Operand}

theorem Operand.Alike.isTruthy_eq (h : x.Alike y) : x.isTruthy = y.isTruthy := by
  cases h with
  | value h => cases h <;> rfl
  | nodes h => cases h <;> rfl
  | _ => rfl

theorem Operand.Alike.value? (h : x.Alike y) : Option.Rel Json.Alike x.value? y.value? := by
  cases h with
  | value h => exact .some h
  | nodes h =>
    cases h with
    | nil => exact .none
    | cons h hRest =>
      cases hRest with
      | nil => exact .some h
      | cons _ _ => exact .none
  | _ => exact .none

theorem Operand.Alike.comparable (h : x.Alike y) : Option.Rel Json.Alike x.comparable y.comparable := by
  cases h with
  | nothing => exact .none
  | value h => exact .some h
  | nodes h =>
    cases h with
    | nil => exact .none
    | cons h hRest =>
      cases hRest with
      | nil => exact .some h
      | cons h' hRest => exact .some (.array (.cons h (.cons h' hRest)))
  | logical b => exact .some (.bool b)

/-- Related sides are interchangeable if related values are, in each of the three tests that comparisons are made of. -/
theorem Comparison.holds_congr_of {R : Json → Json → Prop}
    (hEqual : ∀ x x' y y', R x x' → R y y' → x.equal y = x'.equal y')
    (hLess : ∀ x x' y y', R x x' → R y y' → x.less y = x'.less y')
    (hContains : ∀ x x' y y', R x x' → R y y' → x.contains y = x'.contains y')
    {l l' r r' : Option Json} (hl : Option.Rel R l l') (hr : Option.Rel R r r') (op : Comparison) :
    op.holds l r = op.holds l' r' := by
  cases hl with
  | none =>
    cases hr with
    | none => rfl
    | some hr => cases op <;> rfl
  | some hl =>
    cases hr with
    | none => cases op <;> rfl
    | some hr =>
      cases op <;>
        simp only [holds, equalSides, lessSides, containsSides, hEqual _ _ _ _ hl hr, hLess _ _ _ _ hl hr,
          hLess _ _ _ _ hr hl, hContains _ _ _ _ hr hl, hContains _ _ _ _ hl hr]

theorem Comparison.holds_congr {l l' r r' : Option Json} (hl : Option.Rel Json.Alike l l')
    (hr : Option.Rel Json.Alike r r') (op : Comparison) : op.holds l r = op.holds l' r' :=
  holds_congr_of (fun _ _ _ _ => Json.equal_congr) (fun _ _ _ _ => Json.less_congr) (fun _ _ _ _ => Json.contains_congr)
    hl hr op

theorem pathOperand_alike (segments : List Segment) {xs ys : List Json} (h : List.Forall₂ Json.Alike xs ys) :
    (pathOperand segments xs).Alike (pathOperand segments ys) := by
  have hEmpty : xs.isEmpty = ys.isEmpty := by cases h <;> rfl
  rw [pathOperand, pathOperand, hEmpty]
  split
  · exact .nothing
  · exact .nodes h

end Operands

/-- A function that gives alike answers to alike operands, and the same errors. -/
def Function.KeepsAlike (function : Function) : Prop :=
  ∀ xs ys, List.Forall₂ Operand.Alike xs ys →
    Agree Operand.Alike ((function xs).map Answer.toOperand) ((function ys).map Answer.toOperand)

def FunctionTable.KeepsAlike (functions : FunctionTable) : Prop :=
  ∀ name function, Dict.get? functions name = some function → function.KeepsAlike

theorem FunctionTable.KeepsAlike.call {functions : FunctionTable} (h : functions.KeepsAlike) (name : String)
    {xs ys : List Operand} (hOperands : List.Forall₂ Operand.Alike xs ys) :
    Agree Operand.Alike ((functions.call name xs).map Answer.toOperand)
      ((functions.call name ys).map Answer.toOperand) := by
  rw [FunctionTable.call, FunctionTable.call]
  cases hFunction : Dict.get? functions name with
  | none => exact .error _
  | some function => exact h name function hFunction xs ys hOperands

theorem lengthOf_eq {x y : Option Json} (h : Option.Rel Json.Alike x y) : lengthOf x = lengthOf y := by
  cases h with
  | none => rfl
  | some h =>
    cases h with
    | array h => rw [lengthOf, lengthOf, h.length_eq]
    | object hKeys _ =>
      have hLength := congrArg List.length hKeys
      rw [Dict.keys, Dict.keys, List.length_map, List.length_map] at hLength
      rw [lengthOf, lengthOf, hLength]
    | _ => rfl

theorem argumentCountError_keepsAlike (name : String) (taken : Nat) {xs ys : List Operand}
    (h : List.Forall₂ Operand.Alike xs ys) :
    Agree Operand.Alike ((Except.error (argumentCountError name taken xs.length)).map Answer.toOperand)
      ((Except.error (argumentCountError name taken ys.length)).map Answer.toOperand) := by
  rw [h.length_eq]
  exact .error _

theorem length_keepsAlike : Function.KeepsAlike length := by
  intro xs ys h
  cases h with
  | nil => exact .error _
  | cons h hRest =>
    cases hRest with
    | nil =>
      rw [length, length, lengthOf_eq h.value?]
      exact .ok (Operand.Alike.refl _)
    | cons h' hRest => exact argumentCountError_keepsAlike "length" 1 (.cons h (.cons h' hRest))

theorem count_keepsAlike : Function.KeepsAlike count := by
  intro xs ys h
  cases h with
  | nil => exact .error _
  | cons h hRest =>
    cases hRest with
    | nil =>
      cases h with
      | nodes h =>
        rw [count, count, h.length_eq]
        exact .ok (Operand.Alike.refl _)
      | _ => exact .error _
    | cons h' hRest => simpa [count] using argumentCountError_keepsAlike "count" 1 (.cons h (.cons h' hRest))

theorem value_keepsAlike : Function.KeepsAlike value := by
  intro xs ys h
  cases h with
  | nil => exact .error _
  | cons h hRest =>
    cases hRest with
    | nil =>
      cases h with
      | nodes h =>
        cases h with
        | nil => exact .ok .nothing
        | cons h hMore =>
          cases hMore with
          | nil => exact .ok (.value h)
          | cons _ _ => exact .ok .nothing
      | _ => exact .error _
    | cons h' hRest => simpa [value] using argumentCountError_keepsAlike "value" 1 (.cons h (.cons h' hRest))

theorem patternTest_keepsAlike [PatternEngine] (name : String) (pattern : String → String) :
    Function.KeepsAlike (patternTest name pattern) := by
  intro xs ys h
  cases h with
  | nil => exact .error _
  | @cons x y _ _ h hRest =>
    cases hRest with
    | nil => exact .error _
    | @cons x' y' _ _ h' hMore =>
      cases hMore with
      | nil =>
        have hSubject := h.value?
        have hText := h'.value?
        rw [patternTest, patternTest]
        generalize x.value? = subject, y.value? = subject', x'.value? = text, y'.value? = text' at hSubject hText ⊢
        cases hSubject with
        | none => exact .ok (.logical false)
        | some hSubject =>
          cases hText with
          | none => cases hSubject <;> exact .ok (.logical false)
          | some hText => cases hSubject <;> cases hText <;> exact .ok (.logical _)
      | cons h'' hMore => exact argumentCountError_keepsAlike name 2 (.cons h (.cons h' (.cons h'' hMore)))

theorem standardFunctions_keepsAlike [PatternEngine] : standardFunctions.KeepsAlike := fun _ _ h =>
  forall_standardFunctions length_keepsAlike count_keepsAlike patternTest_keepsAlike value_keepsAlike h

/-! ## Places -/

/-- The same location in two documents, with alike values. -/
structure Place.Alike (p q : Place) : Prop where
  location : p.location = q.location
  value : p.value.Alike q.value

section Places

theorem findIdx?_key (members : List (String × Json)) (name : String) :
    (members.findIdx? fun member => member.1 = name) = (Dict.keys members).findIdx? fun key => key = name := by
  rw [Dict.keys, List.findIdx?_map]
  rfl

theorem positions_eq (s : Segment) {x y : Json} (h : x.Alike y) : s.positions x = s.positions y := by
  cases s with
  | child name =>
    cases h with
    | object hKeys _ =>
      rw [Segment.positions, Segment.positions, findIdx?_key, findIdx?_key, hKeys]
    | _ => rfl
  | index i =>
    cases h with
    | array h => rw [Segment.positions, Segment.positions, h.length_eq]
    | _ => rfl
  | wildcard => rw [Segment.positions, Segment.positions, h.children.length_eq]
  | slice start stop step =>
    cases h with
    | array h => rw [Segment.positions, Segment.positions, h.length_eq]
    | _ => rfl
  | _ => rfl

theorem getElem?_related {α β : Type} {R : α → β → Prop} {xs : List α} {ys : List β} (h : List.Forall₂ R xs ys)
    (i : Nat) : Option.Rel R xs[i]? ys[i]? := by
  induction h generalizing i with
  | nil => exact .none
  | cons hItem _ ih =>
    cases i with
    | zero => exact .some hItem
    | succ i => exact ih i

variable {p q : Place}

theorem Place.Alike.child? (h : p.Alike q) (i : Nat) : Option.Rel Place.Alike (p.child? i) (q.child? i) := by
  have hItem := getElem?_related h.value.children i
  rw [Place.child?, Place.child?, h.location]
  generalize p.value.children[i]? = x, q.value.children[i]? = y at hItem ⊢
  cases hItem with
  | none => exact .none
  | some hItem => exact .some ⟨rfl, hItem⟩

theorem Place.Alike.pick (h : p.Alike q) (positions : List Nat) :
    List.Forall₂ Place.Alike (p.pick positions) (q.pick positions) := by
  induction positions with
  | nil => exact .nil
  | cons i rest ih =>
    have hChild := h.child? i
    rw [Place.pick, Place.pick, List.filterMap_cons, List.filterMap_cons]
    generalize p.child? i = child, q.child? i = child' at hChild ⊢
    cases hChild with
    | none => exact ih
    | some hChild => exact .cons hChild ih

theorem Place.Alike.pick_positions (h : p.Alike q) (s : Segment) :
    List.Forall₂ Place.Alike (p.pick (s.positions p.value)) (q.pick (s.positions q.value)) := by
  rw [positions_eq s h.value]
  exact h.pick _

theorem placesFromItems_alike {location : Location} {xs ys : List Json}
    (ih : ∀ x ∈ xs, ∀ (below : Location) (y : Json), x.Alike y →
      List.Forall₂ Place.Alike (placesFrom below x) (placesFrom below y))
    (h : List.Forall₂ Json.Alike xs ys) (first : Nat) :
    List.Forall₂ Place.Alike (placesFromItems location first xs) (placesFromItems location first ys) := by
  induction h generalizing first with
  | nil => exact .nil
  | @cons x y _ _ hItem _ ihRest =>
    rw [List.forall_mem_cons] at ih
    exact List.rel_append (ih.1 _ y hItem) (ihRest ih.2 (first + 1))

theorem placesFrom_alike : ∀ (x : Json) (location : Location) (y : Json), x.Alike y →
    List.Forall₂ Place.Alike (placesFrom location x) (placesFrom location y) := by
  refine Json.children_induction fun x ih location y h => ?_
  rw [placesFrom_eq, placesFrom_eq]
  exact .cons ⟨rfl, h⟩ (placesFromItems_alike ih h.children 0)

end Places

/-! ## Two evaluations -/

section Evaluation

theorem agree_append {α β : Type} {R : α → β → Prop} {x x' : Except Error (List α)} {y y' : Except Error (List β)}
    (h : Agree (List.Forall₂ R) x y) (h' : Agree (List.Forall₂ R) x' y') :
    Agree (List.Forall₂ R)
      (do
        let xs ← x
        let xs' ← x'
        return xs ++ xs')
      (do
        let ys ← y
        let ys' ← y'
        return ys ++ ys') :=
  h.bind fun _ _ hFirst => h'.bind fun _ _ hRest => .ok (List.rel_append hFirst hRest)

theorem agree_gather {f g : Place → Except Error (List Place)} {ps qs : List Place}
    (hfg : ∀ p q, p.Alike q → Agree (List.Forall₂ Place.Alike) (f p) (g q)) (h : List.Forall₂ Place.Alike ps qs) :
    Agree (List.Forall₂ Place.Alike) (gather f ps) (gather g qs) := by
  induction h with
  | nil => exact .ok .nil
  | cons hPlace _ ih => exact agree_append (hfg _ _ hPlace) ih

theorem agree_keep {f g : Place → Except Error Bool} {ps qs : List Place}
    (hfg : ∀ p q, p.Alike q → Agree Eq (f p) (g q)) (h : List.Forall₂ Place.Alike ps qs) :
    Agree (List.Forall₂ Place.Alike) (keep f ps) (keep g qs) := by
  induction h with
  | nil => exact .ok .nil
  | cons hPlace _ ih =>
    refine (hfg _ _ hPlace).bind fun passes _ hPasses => ih.bind fun _ _ hRest => ?_
    subst hPasses
    cases passes with
    | true => exact .ok (.cons hPlace hRest)
    | false => exact .ok hRest

/-- Scopes of alike values with the same functions. -/
structure Scope.Alike (scope scope' : Scope) : Prop where
  document : scope.document.Alike scope'.document
  extra : scope.extra.Alike scope'.extra
  functions : scope.functions = scope'.functions

variable {scope scope' : Scope}

theorem Scope.Alike.start (h : scope.Alike scope') (root : Root) {x y : Json} (hCurrent : x.Alike y) :
    (scope.start root x).Alike (scope'.start root y) := by
  cases root with
  | document => exact h.document
  | current => exact hCurrent
  | extra => exact h.extra

theorem agree_selectPlacesEach {selectors : List Segment} {p q : Place} (h : ∀ s ∈ selectors,
      Agree (List.Forall₂ Place.Alike) (selectPlaces scope s p) (selectPlaces scope' s q)) :
    Agree (List.Forall₂ Place.Alike) (selectPlacesEach scope selectors p) (selectPlacesEach scope' selectors q) := by
  induction selectors with
  | nil => exact .ok .nil
  | cons s rest ih =>
    rw [List.forall_mem_cons] at h
    exact agree_append h.1 (ih h.2)

theorem agree_followPlaces {segments : List Segment} (h : ∀ s ∈ segments, ∀ p q : Place, p.Alike q →
      Agree (List.Forall₂ Place.Alike) (selectPlaces scope s p) (selectPlaces scope' s q))
    {ps qs : List Place} (hPlaces : List.Forall₂ Place.Alike ps qs) :
    Agree (List.Forall₂ Place.Alike) (followPlaces scope segments ps) (followPlaces scope' segments qs) := by
  induction segments generalizing ps qs with
  | nil => exact .ok hPlaces
  | cons s rest ih =>
    rw [List.forall_mem_cons] at h
    exact (agree_gather h.1 hPlaces).bind fun _ _ hNext => ih h.2 hNext

theorem agree_valuesOf {x y : Except Error (List Place)} (h : Agree (List.Forall₂ Place.Alike) x y) :
    Agree (List.Forall₂ Json.Alike) (valuesOf x) (valuesOf y) := by
  cases h with
  | error e => exact .error e
  | ok h =>
    exact .ok (List.forall₂_map_left_iff.2 (List.forall₂_map_right_iff.2 (h.imp fun _ _ hPlace => hPlace.value)))

theorem agree_evaluateAll {arguments : List Expr} {x y : Json}
    (h : ∀ e ∈ arguments, Agree Operand.Alike (evaluate scope e x) (evaluate scope' e y)) :
    Agree (List.Forall₂ Operand.Alike) (evaluateAll scope arguments x) (evaluateAll scope' arguments y) := by
  induction arguments with
  | nil => exact .ok .nil
  | cons e rest ih =>
    rw [List.forall_mem_cons] at h
    exact h.1.bind fun _ _ hFirst => (ih h.2).bind fun _ _ hRest => .ok (.cons hFirst hRest)

/-- In scopes of alike values, with functions that keep alike values alike, places of alike values lead to such places,
and all expressions have alike operands. -/
theorem agree_evaluation (hScope : scope.Alike scope') (hFunctions : scope.functions.KeepsAlike) :
    Hereditary
      (fun s => ∀ p q : Place, p.Alike q →
        Agree (List.Forall₂ Place.Alike) (selectPlaces scope s p) (selectPlaces scope' s q))
      (fun e => ∀ x y : Json, x.Alike y → Agree Operand.Alike (evaluate scope e x) (evaluate scope' e y)) where
  child name p q h := .ok (h.pick_positions _)
  index i p q h := .ok (h.pick_positions _)
  wildcard p q h := .ok (h.pick_positions .wildcard)
  descend selector ih p q h := by
    refine agree_gather ih ?_
    rw [h.location]
    exact placesFrom_alike _ _ _ h.value
  slice start stop step p q h := .ok (h.pick_positions _)
  union selectors ih p q h := agree_selectPlacesEach fun s hs => ih s hs p q h
  filter test ih p q h := by
    refine agree_keep (fun child child' hChild => ?_) (h.pick_positions .wildcard)
    exact (ih _ _ hChild.value).bind fun _ _ hOperand => .ok hOperand.isTruthy_eq
  literal value x y h := .ok (Operand.Alike.refl _)
  path root segments ih x y h := by
    -- An operand keeps no locations, so those of its nodes may count from where the path starts.
    have hStart := hScope.start root h
    have hPlace : Place.Alike ⟨[], scope.start root x⟩ ⟨[], scope'.start root y⟩ := ⟨rfl, hStart⟩
    have hNodes := agree_valuesOf (agree_followPlaces ih (.cons hPlace .nil))
    rw [valuesOf_followPlaces, valuesOf_followPlaces] at hNodes
    exact hNodes.bind fun _ _ hFound => .ok (pathOperand_alike segments hFound)
  call name arguments ih x y h := by
    refine (agree_evaluateAll fun e he => ih e he x y h).bind fun xs ys hOperands => ?_
    rw [← hScope.functions]
    exact hFunctions.call name hOperands
  not operand ih x y h := (ih x y h).bind fun _ _ hOperand => by
    rw [hOperand.isTruthy_eq]
    exact .ok (.logical _)
  and left right ihl ihr x y h := by
    refine (ihl x y h).bind fun _ b hLeft => ?_
    rw [hLeft.isTruthy_eq]
    split
    · exact (ihr x y h).bind fun _ _ hRight => hRight.isTruthy_eq ▸ .ok (.logical _)
    · exact .ok (.logical _)
  or left right ihl ihr x y h := by
    refine (ihl x y h).bind fun _ b hLeft => ?_
    rw [hLeft.isTruthy_eq]
    split
    · exact .ok (.logical _)
    · exact (ihr x y h).bind fun _ _ hRight => hRight.isTruthy_eq ▸ .ok (.logical _)
  compare left op right ihl ihr x y h := by
    refine (ihl x y h).bind fun _ _ hLeft => (ihr x y h).bind fun _ _ hRight => ?_
    rw [Comparison.holds_congr hLeft.comparable hRight.comparable op]
    exact .ok (.logical _)

end Evaluation

/-! ## Runs -/

/-- Queries with the standard functions cannot tell spellings of numbers apart. On alike documents, with alike extra
values, both runs fail with the same error, or their matches are alike one by one and stand at the same locations. -/
theorem alike_documents_match_alike [PatternEngine] {source : String} {query : Compiled}
    (hCompile : compile standardFunctions source = .ok query) {document document' extra extra' : Json}
    (hDocument : document.Alike document') (hExtra : extra.Alike extra') :
    (∃ e, query.run document extra = .error e ∧ query.run document' extra' = .error e) ∨
      ∃ places places' : List Place,
        query.places document extra = .ok places ∧ query.run document extra = .ok (places.map Place.value) ∧
        query.places document' extra' = .ok places' ∧ query.run document' extra' = .ok (places'.map Place.value) ∧
        List.Forall₂ (fun p q => p.location = q.location ∧ p.value.Alike q.value ∧ p.IsIn document ∧ q.IsIn document')
          places places' := by
  obtain ⟨-, -, hFunctions⟩ := compile_eq_ok hCompile
  have hScope : Scope.Alike ⟨document, extra, query.functions⟩ ⟨document', extra', query.functions⟩ :=
    ⟨hDocument, hExtra, rfl⟩
  have hKeeps : query.functions.KeepsAlike := hFunctions ▸ standardFunctions_keepsAlike
  have hPlace : Place.Alike ⟨[], document⟩ ⟨[], document'⟩ := ⟨rfl, hDocument⟩
  have hAgree : Agree (List.Forall₂ Place.Alike) (query.places document extra) (query.places document' extra') :=
    agree_followPlaces (fun s _ => (agree_evaluation hScope hKeeps).segment s) (.cons hPlace .nil)
  rw [query.run_eq_valuesOf_places, query.run_eq_valuesOf_places]
  generalize hLeft : query.places document extra = x, hRight : query.places document' extra' = y at hAgree
  cases hAgree with
  | error e => exact .inl ⟨e, rfl, rfl⟩
  | @ok places places' hPlaces =>
    refine .inr ⟨places, places', rfl, rfl, rfl, rfl, List.forall₂_iff_zip.2 ⟨hPlaces.length_eq, ?_⟩⟩
    intro p q hZip
    obtain ⟨hLocation, hValue⟩ := List.forall₂_zip hPlaces hZip
    have hIn := query.allIn_places document extra places hLeft p (List.of_mem_zip hZip).1
    have hIn' := query.allIn_places document' extra' places' hRight q (List.of_mem_zip hZip).2
    exact ⟨hLocation, hValue, hIn, hIn'⟩

/-- The numbers that are at least as large as the extra value. -/
def atLeastExtra : List Segment := [.filter (.compare (.path .current []) .greaterEqual (.path .extra []))]

def oneAndTwo (one two : Number) : Json := .array [.number one, .number two]

theorem alike_documents_match_alike_numbers :
    compile standardFunctions "$[?@ >= _]" = .ok ⟨"$[?@ >= _]", atLeastExtra, standardFunctions⟩ ∧
      (oneAndTwo (.int 1) (.real (.ofNat 2))).Alike (oneAndTwo (.real (.ofNat 1)) (.int 2)) ∧
      (Json.ofInt 2).Alike (.number (.real (.ofNat 2))) ∧
      Compiled.run ⟨"$[?@ >= _]", atLeastExtra, standardFunctions⟩ (oneAndTwo (.int 1) (.real (.ofNat 2))) (.ofInt 2) =
        .ok [.number (.real (.ofNat 2))] ∧
      ∃ x, Compiled.run ⟨"$[?@ >= _]", atLeastExtra, standardFunctions⟩ (oneAndTwo (.real (.ofNat 1)) (.int 2))
        (.number (.real (.ofNat 2))) = .ok [x] ∧ Json.Alike (.number (.real (.ofNat 2))) x := by
  have hCompile : compile standardFunctions "$[?@ >= _]" = .ok ⟨"$[?@ >= _]", atLeastExtra, standardFunctions⟩ := rfl
  have hOne : Number.Alike (.int 1) (.real (.ofNat 1)) := by decide
  have hTwo : Number.Alike (.real (.ofNat 2)) (.int 2) := by decide
  have hDocument : (oneAndTwo (.int 1) (.real (.ofNat 2))).Alike (oneAndTwo (.real (.ofNat 1)) (.int 2)) :=
    .array (.cons (.number hOne) (.cons (.number hTwo) .nil))
  have hExtra : (Json.ofInt 2).Alike (.number (.real (.ofNat 2))) := .number (by decide)
  have hRun : Compiled.run ⟨"$[?@ >= _]", atLeastExtra, standardFunctions⟩ (oneAndTwo (.int 1) (.real (.ofNat 2)))
      (.ofInt 2) = .ok [.number (.real (.ofNat 2))] := rfl
  refine ⟨hCompile, hDocument, hExtra, hRun, ?_⟩
  rcases alike_documents_match_alike hCompile hDocument hExtra with
    ⟨e, hFails, -⟩ | ⟨places, places', -, h, -, h', hEach⟩
  · rw [hRun] at hFails
    cases hFails
  · rw [hRun] at h
    have hValues := List.forall₂_map_left_iff.2 (List.forall₂_map_right_iff.2 (hEach.imp fun _ _ hPair => hPair.2.1))
    rw [← Except.ok.inj h, List.forall₂_cons_left_iff] at hValues
    obtain ⟨x, rest, hValue, hNone, hPlaces'⟩ := hValues
    rw [List.forall₂_nil_left_iff.1 hNone] at hPlaces'
    exact ⟨x, by rw [h', hPlaces'], hValue⟩

end TemplateQuery.Query
