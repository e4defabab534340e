import Mathlib.Data.List.Perm.Subperm
import TemplateQuery.Json.Reader
import TemplateQuery.Proofs.Dict
import TemplateQuery.Proofs.Json.Alike

/-!
# Equal values

Two objects are equal if each name has equal values in both, or a value in neither. Said in this way, equality needs no
order of the members, and it is an equivalence. The comparison of values goes through the members on one side only and
counts those on the other. That comes to the same as long as no name is repeated, and no value that is read repeats one.
-/
namespace TemplateQuery.Json

/-! ## Names that are not repeated -/

def names : Json → List String
  | .object members => Dict.keys members
  | _ => []

/-- No object in the value, at any depth, has two members of one name. -/
inductive NamesDistinct : Json → Prop where
  | intro {x : Json} (hNames : x.names.Nodup) (hChildren : ∀ y ∈ x.children, NamesDistinct y) : NamesDistinct x

theorem NamesDistinct.names {x : Json} (h : x.NamesDistinct) : x.names.Nodup := by
  obtain ⟨hNames, -⟩ := h
  exact hNames

theorem NamesDistinct.children {x : Json} (h : x.NamesDistinct) : ∀ y ∈ x.children, y.NamesDistinct := by
  obtain ⟨-, hChildren⟩ := h
  exact hChildren

/-! ## Equality by names -/

/-- Values that stand for the same: numbers of one binary64 value, arrays with the same elements in order, and objects with
the same values under the same names. -/
inductive Same : Json → Json → Prop where
  | null : Same .null .null
  | bool (b : Bool) : Same (.bool b) (.bool b)
  | number {x y : Number} (h : x.Alike y) : Same (.number x) (.number y)
  | string (s : String) : Same (.string s) (.string s)
  | array {xs ys : List Json} (h : List.Forall₂ Same xs ys) : Same (.array xs) (.array ys)
  | object {xs ys : List (String × Json)} (h : ∀ key, Option.Rel Same (Dict.get? xs key) (Dict.get? ys key)) :
    Same (.object xs) (.object ys)

/-- A value with the members of its objects, at any depth, in another order. -/
inductive Reordered : Json → Json → Prop where
  | null : Reordered .null .null
  | bool (b : Bool) : Reordered (.bool b) (.bool b)
  | number (x : Number) : Reordered (.number x) (.number x)
  | string (s : String) : Reordered (.string s) (.string s)
  | array {xs ys : List Json} (h : List.Forall₂ Reordered xs ys) : Reordered (.array xs) (.array ys)
  | object {xs xs' ys : List (String × Json)} (hPerm : xs.Perm xs') (hKeys : Dict.keys xs' = Dict.keys ys)
    (hValues : List.Forall₂ Reordered (Dict.values xs') (Dict.values ys)) : Reordered (.object xs) (.object ys)

section Equivalence

theorem forall₂_symm_of_mem {R : Json → Json → Prop} {xs ys : List Json} (h : List.Forall₂ R xs ys)
    (hSymm : ∀ x ∈ xs, ∀ y, R x y → R y x) : List.Forall₂ R ys xs := by
  induction h with
  | nil => exact .nil
  | cons hxy _ ih =>
    rw [List.forall_mem_cons] at hSymm
    exact .cons (hSymm.1 _ hxy) (ih hSymm.2)

theorem forall₂_trans_of_mem {R : Json → Json → Prop} {xs ys zs : List Json} (h : List.Forall₂ R xs ys)
    (h' : List.Forall₂ R ys zs) (hTrans : ∀ x ∈ xs, ∀ y z, R x y → R y z → R x z) : List.Forall₂ R xs zs := by
  induction h generalizing zs with
  | nil => exact h'
  | cons hxy _ ih =>
    rw [List.forall_mem_cons] at hTrans
    cases h' with
    | cons hyz hRest => exact .cons (hTrans.1 _ _ hxy hyz) (ih hRest hTrans.2)

theorem rel_symm_of_mem {R : Json → Json → Prop} {x? y? : Option Json} (h : Option.Rel R x? y?)
    (hSymm : ∀ x ∈ x?, ∀ y, R x y → R y x) : Option.Rel R y? x? := by
  cases h with
  | none => exact .none
  | some hxy => exact .some (hSymm _ rfl _ hxy)

theorem rel_trans_of_mem {R : Json → Json → Prop} {x? y? z? : Option Json} (h : Option.Rel R x? y?)
    (h' : Option.Rel R y? z?) (hTrans : ∀ x ∈ x?, ∀ y z, R x y → R y z → R x z) : Option.Rel R x? z? := by
  cases h with
  | none => exact h'
  | some hxy =>
    cases h' with
    | some hyz => exact .some (hTrans _ rfl _ _ hxy hyz)

theorem Same.refl : ∀ x : Json, x.Same x := by
  refine children_induction fun x ih => ?_
  cases x with
  | null => exact .null
  | bool b => exact .bool b
  | number x => exact .number (decide_eq_true rfl)
  | string s => exact .string s
  | array items => exact .array (List.forall₂_same.2 ih)
  | object members =>
    refine .object fun key => ?_
    cases hFound : Dict.get? members key with
    | none => exact .none
    | some x => exact .some (ih x (Dict.mem_values_of_get? hFound))

theorem Same.symm {x y : Json} (h : x.Same y) : y.Same x := by
  suffices hAll : ∀ x : Json, ∀ y, x.Same y → y.Same x from hAll x y h
  refine children_induction fun x ih y h => ?_
  cases h with
  | null => exact .null
  | bool b => exact .bool b
  | number h => exact .number (decide_eq_true h.rank_eq.symm)
  | string s => exact .string s
  | array h => exact .array (forall₂_symm_of_mem h ih)
  | object h =>
    exact .object fun key => rel_symm_of_mem (h key) fun x hx => ih x (Dict.mem_values_of_get? hx)

theorem Same.trans {x y z : Json} (h : x.Same y) (h' : y.Same z) : x.Same z := by
  suffices hAll : ∀ x : Json, ∀ y z, x.Same y → y.Same z → x.Same z from hAll x y z h h'
  refine children_induction fun x ih y z h h' => ?_
  cases h with
  | null => exact h'
  | bool b => exact h'
  | string s => exact h'
  | number h =>
    cases h' with
    | number h' => exact .number (decide_eq_true (h.rank_eq.trans h'.rank_eq))
  | array h =>
    cases h' with
    | array h' => exact .array (forall₂_trans_of_mem h h' ih)
  | object h =>
    cases h' with
    | object h' =>
      exact .object fun key => rel_trans_of_mem (h key) (h' key) fun x hx => ih x (Dict.mem_values_of_get? hx)

theorem forall₂_imp_of_mem {R S : Json → Json → Prop} {xs ys : List Json} (h : List.Forall₂ R xs ys)
    (hImp : ∀ x ∈ xs, ∀ y, R x y → S x y) : List.Forall₂ S xs ys := by
  induction h with
  | nil => exact .nil
  | cons hxy _ ih =>
    rw [List.forall_mem_cons] at hImp
    exact .cons (hImp.1 _ hxy) (ih hImp.2)

/-- The order of the members has no part in equality. -/
theorem Reordered.same {x y : Json} (hx : x.NamesDistinct) (h : x.Reordered y) : x.Same y := by
  suffices hAll : ∀ x : Json, ∀ y, x.NamesDistinct → x.Reordered y → x.Same y from hAll x y hx h
  refine children_induction fun x ih y hx h => ?_
  cases h with
  | null => exact .null
  | bool b => exact .bool b
  | number x => exact .number (decide_eq_true rfl)
  | string s => exact .string s
  | array h => exact .array (forall₂_imp_of_mem h fun x' hx' y' => ih x' hx' y' (hx.children x' hx'))
  | @object xs xs' ys hPerm hKeys hValues =>
    have hSame : List.Forall₂ Same (Dict.values xs') (Dict.values ys) := by
      refine forall₂_imp_of_mem hValues fun x' hx' y' => ?_
      have hMem : x' ∈ Dict.values xs := (hPerm.map _).mem_iff.2 hx'
      exact ih x' hMem y' (hx.children x' hMem)
    refine .object fun key => ?_
    rw [Dict.get?_perm hx.names hPerm]
    exact get?_rel (forall₂_members hKeys hSame) key

end Equivalence

/-! ## The comparison of values -/

section Equal

theorem equalItems_iff {xs ys : List Json} :
    equalItems xs ys = true ↔ List.Forall₂ (fun x y => x.equal y = true) xs ys := by
  induction xs generalizing ys with
  | nil => cases ys <;> simp [equalItems]
  | cons x xs ih => cases ys <;> simp [equalItems, ih]

theorem membersWithin_iff {xs ys : List (String × Json)} :
    membersWithin xs ys = true ↔ ∀ m ∈ xs, ∃ y, Dict.get? ys m.1 = some y ∧ m.2.equal y = true := by
  induction xs with
  | nil => simp [membersWithin]
  | cons m rest ih =>
    obtain ⟨key, x⟩ := m
    rw [membersWithin, Bool.and_eq_true, ih, List.forall_mem_cons]
    refine and_congr_left fun _ => ?_
    cases Dict.get? ys key <;> simp

/-- As many members on both sides, none of them repeated, and all names of the left on the right: so the names are the
same. -/
theorem keys_perm_of_subset {xs ys : List (String × Json)} (hKeys : (Dict.keys xs).Nodup)
    (hLength : xs.length = ys.length) (hSubset : Dict.keys xs ⊆ Dict.keys ys) : (Dict.keys xs).Perm (Dict.keys ys) := by
  refine (List.subperm_of_subset hKeys hSubset).perm_of_length_le ?_
  rw [Dict.keys, Dict.keys, List.length_map, List.length_map]
  exact Nat.le_of_eq hLength.symm

theorem equal_object_iff {xs ys : List (String × Json)} (hx : (Dict.keys xs).Nodup) (hy : (Dict.keys ys).Nodup) :
    (object xs).equal (.object ys) = true ↔
      ∀ key, Option.Rel (fun x y => x.equal y = true) (Dict.get? xs key) (Dict.get? ys key) := by
  rw [equal, Bool.and_eq_true, beq_iff_eq, membersWithin_iff]
  constructor
  · rintro ⟨hLength, hWithin⟩ key
    cases hFound : Dict.get? xs key with
    | some x =>
      obtain ⟨y, hOther, hxy⟩ := hWithin (key, x) (Dict.mem_of_get? hFound)
      rw [hOther]
      exact .some hxy
    | none =>
      have hSubset : Dict.keys xs ⊆ Dict.keys ys := by
        intro k hk
        obtain ⟨m, hm, rfl⟩ := List.mem_map.1 hk
        obtain ⟨y, hOther, -⟩ := hWithin m hm
        exact List.mem_map.2 ⟨_, Dict.mem_of_get? hOther, rfl⟩
      have hNone : Dict.get? ys key = none := by
        rw [Dict.get?_eq_none_iff] at hFound ⊢
        rwa [← (keys_perm_of_subset hx hLength hSubset).mem_iff]
      rw [hNone]
      exact .none
  · intro h
    have hMem (key : String) : key ∈ Dict.keys xs ↔ key ∈ Dict.keys ys := by
      rw [← not_iff_not, ← Dict.get?_eq_none_iff, ← Dict.get?_eq_none_iff]
      have hKey := h key
      generalize Dict.get? xs key = x, Dict.get? ys key = y at hKey
      cases hKey <;> simp
    refine ⟨?_, fun m hm => ?_⟩
    · have hPerm := (List.perm_ext_iff_of_nodup hx hy).2 hMem
      simpa [Dict.keys] using hPerm.length_eq
    · have hKey := h m.1
      rw [(Dict.get?_eq_some_iff hx).2 hm] at hKey
      generalize Dict.get? ys m.1 = y at hKey ⊢
      cases hKey with
      | some hxy => exact ⟨_, rfl, hxy⟩

theorem forall₂_congr_of_mem {R S : Json → Json → Prop} {xs ys : List Json} (h : ∀ x ∈ xs, ∀ y ∈ ys, R x y ↔ S x y) :
    List.Forall₂ R xs ys ↔ List.Forall₂ S xs ys := by
  induction xs generalizing ys with
  | nil => cases ys <;> simp
  | cons x xs ih =>
    cases ys with
    | nil => simp
    | cons y ys =>
      have hHead := h x List.mem_cons_self y List.mem_cons_self
      have hTail := ih fun x' hx' y' hy' => h x' (List.mem_cons_of_mem _ hx') y' (List.mem_cons_of_mem _ hy')
      rw [List.forall₂_cons, List.forall₂_cons, hHead, hTail]

theorem rel_congr_of_mem {R S : Json → Json → Prop} {x? y? : Option Json} (h : ∀ x ∈ x?, ∀ y ∈ y?, R x y ↔ S x y) :
    Option.Rel R x? y? ↔ Option.Rel S x? y? := by
  constructor
  · rintro (⟨hxy⟩ | -)
    · exact .some ((h _ rfl _ rfl).1 hxy)
    · exact .none
  · rintro (⟨hxy⟩ | -)
    · exact .some ((h _ rfl _ rfl).2 hxy)
    · exact .none

theorem same_bool_iff {a b : Bool} : (bool a).Same (.bool b) ↔ a = b := by
  constructor
  · intro h
    cases h
    rfl
  · rintro rfl
    exact .bool a

theorem same_number_iff {a b : Number} : (number a).Same (.number b) ↔ a.Alike b :=
  ⟨fun h => by cases h; assumption, .number⟩

theorem same_string_iff {s t : String} : (string s).Same (.string t) ↔ s = t := by
  constructor
  · intro h
    cases h
    rfl
  · rintro rfl
    exact .string s

theorem same_array_iff {xs ys : List Json} : (array xs).Same (.array ys) ↔ List.Forall₂ Same xs ys :=
  ⟨fun h => by cases h; assumption, .array⟩

theorem same_object_iff {xs ys : List (String × Json)} :
    (object xs).Same (.object ys) ↔ ∀ key, Option.Rel Same (Dict.get? xs key) (Dict.get? ys key) :=
  ⟨fun h => by cases h; assumption, .object⟩

/-- On values that repeat no name, the comparison says which ones are the same. -/
theorem equal_iff_same {x y : Json} (hx : x.NamesDistinct) (hy : y.NamesDistinct) : x.equal y = true ↔ x.Same y := by
  suffices hAll : ∀ x : Json, ∀ y : Json, x.NamesDistinct → y.NamesDistinct → (x.equal y = true ↔ x.Same y) from
    hAll x y hx hy
  refine children_induction fun x ih y hx hy => ?_
  have hChildren : ∀ x' ∈ x.children, ∀ y' ∈ y.children, x'.equal y' = true ↔ x'.Same y' := fun x' hx' y' hy' =>
    ih x' hx' y' (hx.children x' hx') (hy.children y' hy')
  cases x with
  | null =>
    cases y with
    | null => exact ⟨fun _ => .null, fun _ => rfl⟩
    | _ => constructor <;> intro h <;> cases h
  | bool a =>
    cases y with
    | bool b => rw [equal, beq_iff_eq, same_bool_iff]
    | _ => constructor <;> intro h <;> cases h
  | number a =>
    cases y with
    | number b => exact same_number_iff.symm
    | _ => constructor <;> intro h <;> cases h
  | string a =>
    cases y with
    | string b => rw [equal, beq_iff_eq, same_string_iff]
    | _ => constructor <;> intro h <;> cases h
  | array xs =>
    cases y with
    | array ys =>
      rw [equal, equalItems_iff, same_array_iff]
      exact forall₂_congr_of_mem hChildren
    | _ => constructor <;> intro h <;> cases h
  | object xs =>
    cases y with
    | object ys =>
      rw [equal_object_iff hx.names hy.names, same_object_iff]
      exact forall_congr' fun key => rel_congr_of_mem fun x' hx' y' hy' =>
        hChildren x' (Dict.mem_values_of_get? hx') y' (Dict.mem_values_of_get? hy')
    | _ => constructor <;> intro h <;> cases h

end Equal

/-! ## Values that are read -/

section Reading

/-- Whatever is read repeats no name. -/
def ReadsDistinct (item : Reading Json) : Prop := ∀ s x rest, item s = some (x, rest) → x.NamesDistinct

variable {item : Reading Json}

theorem forall_namesDistinct_of_readItems (hItem : ReadsDistinct item) (fuel : Nat) {done items : List Json}
    {s rest : List Char} (hDone : ∀ x ∈ done, x.NamesDistinct) (h : readItems item done fuel s = some (items, rest)) :
    ∀ x ∈ items, x.NamesDistinct := by
  induction fuel generalizing done s with
  | zero => cases h
  | succ fuel ih =>
    rw [readItems] at h
    split at h
    · cases h
      exact fun x hx => hDone x (List.mem_reverse.1 hx)
    · split at h
      · rename_i x _ hRead
        exact ih (List.forall_mem_cons.2 ⟨hItem _ x _ hRead, hDone⟩) h
      · cases h
    · cases h

theorem namesDistinct_of_readMember (hItem : ReadsDistinct item) {s rest : List Char} {key : String} {x : Json}
    (h : readMember item s = some ((key, x), rest)) : x.NamesDistinct := by
  rw [readMember.eq_def] at h
  split at h
  · obtain ⟨⟨name, afterName⟩, -, h⟩ := Option.bind_eq_some_iff.1 h
    dsimp only at h
    split at h
    · obtain ⟨⟨value, afterValue⟩, hItem', h⟩ := Option.bind_eq_some_iff.1 h
      cases h
      exact hItem _ _ _ hItem'
    · cases h
  · cases h

theorem namesDistinct_of_readMembers (hItem : ReadsDistinct item) (fuel : Nat) {done members : Dict Json}
    {s rest : List Char} (hDone : (object done).NamesDistinct)
    (h : readMembers item done fuel s = some (members, rest)) : (object members).NamesDistinct := by
  induction fuel generalizing done s with
  | zero => cases h
  | succ fuel ih =>
    rw [readMembers] at h
    split at h
    · cases h
      exact hDone
    · split at h
      · rename_i hRead
        refine ih ⟨Dict.nodup_keys_put hDone.names, fun y hy => ?_⟩ h
        rcases Dict.mem_values_put hy with rfl | hy
        · exact namesDistinct_of_readMember hItem hRead
        · exact hDone.children y hy
      · cases h
    · cases h

theorem readsDistinct_readArray (hItem : ReadsDistinct item) : ReadsDistinct (readArray item) := by
  intro s x rest h
  rw [readArray] at h
  split at h
  · cases h
    exact ⟨List.nodup_nil, List.forall_mem_nil _⟩
  · obtain ⟨⟨first, afterFirst⟩, hFirst, h⟩ := Option.bind_eq_some_iff.1 h
    obtain ⟨⟨items, afterItems⟩, hItems, h⟩ := Option.bind_eq_some_iff.1 h
    cases h
    have hDone : ∀ y ∈ [first], y.NamesDistinct := List.forall_mem_singleton.2 (hItem _ _ _ hFirst)
    exact ⟨List.nodup_nil, forall_namesDistinct_of_readItems hItem _ hDone hItems⟩

theorem readsDistinct_readObject (hItem : ReadsDistinct item) : ReadsDistinct (readObject item) := by
  intro s x rest h
  rw [readObject] at h
  split at h
  · cases h
    exact ⟨List.nodup_nil, List.forall_mem_nil _⟩
  · obtain ⟨⟨⟨key, first⟩, afterFirst⟩, hFirst, h⟩ := Option.bind_eq_some_iff.1 h
    obtain ⟨⟨members, afterMembers⟩, hMembers, h⟩ := Option.bind_eq_some_iff.1 h
    cases h
    have hKey : [key].Nodup := List.nodup_cons.2 ⟨List.not_mem_nil, List.nodup_nil⟩
    have hDone : (object [(key, first)]).NamesDistinct :=
      ⟨hKey, List.forall_mem_singleton.2 (namesDistinct_of_readMember hItem hFirst)⟩
    exact namesDistinct_of_readMembers hItem _ hDone hMembers

theorem namesDistinct_scalar {x : Json} (h : x.names = []) (h' : x.children = []) : x.NamesDistinct := by
  refine ⟨?_, ?_⟩
  · rw [h]
    exact List.nodup_nil
  · rw [h']
    exact List.forall_mem_nil _

theorem readsDistinct_readValue (depth : Nat) : ReadsDistinct (readValue depth) := by
  induction depth with
  | zero =>
    intro s x rest h
    cases h
  | succ depth ih =>
    intro s x rest h
    rw [readValue.eq_def] at h
    dsimp only at h
    split at h
    · cases h
      exact namesDistinct_scalar rfl rfl
    · cases h
      exact namesDistinct_scalar rfl rfl
    · cases h
      exact namesDistinct_scalar rfl rfl
    · obtain ⟨found, -, h⟩ := Option.map_eq_some_iff.1 h
      cases h
      exact namesDistinct_scalar rfl rfl
    · split at h
      · cases h
      · exact readsDistinct_readArray ih _ _ _ h
    · split at h
      · cases h
      · exact readsDistinct_readObject ih _ _ _ h
    · obtain ⟨found, -, h⟩ := Option.map_eq_some_iff.1 h
      cases h
      exact namesDistinct_scalar rfl rfl
    · obtain ⟨found, -, h⟩ := Option.map_eq_some_iff.1 h
      cases h
      exact namesDistinct_scalar rfl rfl

/-- A document that is read repeats no name. -/
theorem namesDistinct_of_parse? {text : String} {x : Json} (h : parse? text = some x) : x.NamesDistinct := by
  obtain ⟨⟨value, rest⟩, hValue, h⟩ := Option.bind_eq_some_iff.1 h
  dsimp only at h
  split at h
  · cases h
    exact readsDistinct_readValue _ _ _ _ hValue
  · cases h

end Reading

end TemplateQuery.Json
