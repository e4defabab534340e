import Mathlib.Data.List.Forall2
import TemplateQuery.Json.Compare

/-!
# Values that differ in the spelling of numbers

A number can be spelled in several ways that stand for one binary64 value, as `1` and `1.0` do. Values that differ in
such spellings only are alike, and no comparison tells them apart: it has the same outcome for alike operands.
-/
namespace TemplateQuery

/-- Numbers of one binary64 value. Both zeros are the same one. -/
def Number.Alike (x y : Number) : Prop := x.toBinary64.equal y.toBinary64 = true

instance (x y : Number) : Decidable (x.Alike y) := inferInstanceAs (Decidable (_ = true))

theorem Number.Alike.rank_eq {x y : Number} (h : x.Alike y) : x.toBinary64.rank = y.toBinary64.rank :=
  of_decide_eq_true h

namespace Json

/-! ## Induction -/

mutual

/-- What holds of a value whenever it holds of its children holds of every value. -/
theorem children_induction {P : Json → Prop} (step : ∀ x : Json, (∀ y ∈ x.children, P y) → P x) : ∀ x, P x
  | .null => step _ (List.forall_mem_nil P)
  | .bool _ => step _ (List.forall_mem_nil P)
  | .number _ => step _ (List.forall_mem_nil P)
  | .string _ => step _ (List.forall_mem_nil P)
  | .array items => step _ (items_induction step items)
  | .object members => step _ (members_induction step members)
termination_by structural x => x

theorem items_induction {P : Json → Prop} (step : ∀ x : Json, (∀ y ∈ x.children, P y) → P x) :
    ∀ items : List Json, ∀ y ∈ items, P y
  | [] => List.forall_mem_nil P
  | x :: rest => List.forall_mem_cons.2 ⟨children_induction step x, items_induction step rest⟩
termination_by structural items => items

theorem members_induction {P : Json → Prop} (step : ∀ x : Json, (∀ y ∈ x.children, P y) → P x) :
    ∀ members : List (String × Json), ∀ y ∈ Dict.values members, P y
  | [] => List.forall_mem_nil P
  | (_, x) :: rest => List.forall_mem_cons.2 ⟨children_induction step x, members_induction step rest⟩
termination_by structural members => members

end

/-! ## Alike values -/

/-- Values of the same shape, with the same names in the same order, the same strings and truth values, and alike
numbers. -/
inductive Alike : Json → Json → Prop where
  | null : Alike .null .null
  | bool (b : Bool) : Alike (.bool b) (.bool b)
  | number {x y : Number} (h : x.Alike y) : Alike (.number x) (.number y)
  | string (s : String) : Alike (.string s) (.string s)
  | array {xs ys : List Json} (h : List.Forall₂ Alike xs ys) : Alike (.array xs) (.array ys)
  | object {xs ys : List (String × Json)} (hKeys : Dict.keys xs = Dict.keys ys)
    (hValues : List.Forall₂ Alike (Dict.values xs) (Dict.values ys)) : Alike (.object xs) (.object ys)

theorem Alike.refl : ∀ x : Json, x.Alike x := by
  refine children_induction fun x ih => ?_
  cases x with
  | null => exact .null
  | bool b => exact .bool b
  | number x => exact .number (decide_eq_true rfl)
  | string s => exact .string s
  | array items => exact .array (List.forall₂_same.2 ih)
  | object members => exact .object rfl (List.forall₂_same.2 ih)

theorem Alike.children {x y : Json} (h : x.Alike y) : List.Forall₂ Alike x.children y.children := by
  cases h with
  | array h => exact h
  | object _ hValues => exact hValues
  | _ => exact .nil

/-- Dictionaries with the same keys in the same order are related entry by entry. -/
theorem forall₂_members {R : Json → Json → Prop} {xs ys : List (String × Json)} (hKeys : Dict.keys xs = Dict.keys ys)
    (hValues : List.Forall₂ R (Dict.values xs) (Dict.values ys)) :
    List.Forall₂ (fun m n => m.1 = n.1 ∧ R m.2 n.2) xs ys := by
  induction xs generalizing ys with
  | nil =>
    cases ys with
    | nil => exact .nil
    | cons n ys => cases hKeys
  | cons m xs ih =>
    cases ys with
    | nil => cases hKeys
    | cons n ys =>
      rw [Dict.keys, List.map_cons, Dict.keys, List.map_cons, List.cons.injEq] at hKeys
      rw [Dict.values, List.map_cons, Dict.values, List.map_cons, List.forall₂_cons] at hValues
      exact .cons ⟨hKeys.1, hValues.1⟩ (ih hKeys.2 hValues.2)

theorem get?_rel {R : Json → Json → Prop} {xs ys : List (String × Json)}
    (h : List.Forall₂ (fun m n => m.1 = n.1 ∧ R m.2 n.2) xs ys) (key : String) :
    Option.Rel R (Dict.get? xs key) (Dict.get? ys key) := by
  induction h with
  | nil => exact .none
  | @cons m n xs ys hEntry _ ih =>
    obtain ⟨k, x⟩ := m
    obtain ⟨k', y⟩ := n
    obtain ⟨rfl, hValue⟩ := hEntry
    by_cases hKey : k = key
    · simpa [Dict.get?, hKey] using Option.Rel.some hValue
    · simpa [Dict.get?, hKey] using ih

/-! ## Comparisons -/

section Comparisons

variable {x x' y y' : Json}

/-- The outcome of an equality is the same for alike sides. -/
def EqualCongr (x : Json) : Prop := ∀ x' y y', Alike x x' → Alike y y' → x.equal y = x'.equal y'

theorem equalItems_congr {xs xs' ys ys' : List Json} (hEqual : ∀ x ∈ xs, x.EqualCongr)
    (hLeft : List.Forall₂ Alike xs xs') (hRight : List.Forall₂ Alike ys ys') :
    equalItems xs ys = equalItems xs' ys' := by
  induction hLeft generalizing ys ys' with
  | nil => cases hRight <;> rfl
  | cons hx _ ih =>
    rw [List.forall_mem_cons] at hEqual
    cases hRight with
    | nil => rfl
    | cons hy hRest => rw [equalItems, equalItems, hEqual.1 _ _ _ hx hy, ih hEqual.2 hRest]

theorem membersWithin_congr {xs xs' ys ys' : List (String × Json)} (hEqual : ∀ x ∈ Dict.values xs, x.EqualCongr)
    (hLeft : List.Forall₂ (fun m n => m.1 = n.1 ∧ m.2.Alike n.2) xs xs')
    (hRight : List.Forall₂ (fun m n => m.1 = n.1 ∧ m.2.Alike n.2) ys ys') :
    membersWithin xs ys = membersWithin xs' ys' := by
  induction hLeft with
  | nil => rfl
  | @cons m n xs xs' hEntry _ ih =>
    obtain ⟨k, x⟩ := m
    obtain ⟨k', x'⟩ := n
    obtain ⟨rfl, hx⟩ := hEntry
    rw [Dict.values, List.map_cons, List.forall_mem_cons] at hEqual
    have hFound := get?_rel hRight k
    rw [membersWithin, membersWithin, ih hEqual.2]
    generalize Dict.get? ys k = found, Dict.get? ys' k = found' at hFound ⊢
    cases hFound with
    | none => rfl
    | @some y y' hy =>
      have hValue : x.equal y = x'.equal y' := hEqual.1 _ _ _ hx hy
      simp only [hValue]

theorem equal_congr : x.Alike x' → y.Alike y' → x.equal y = x'.equal y' := by
  suffices h : ∀ x : Json, x.EqualCongr from h x x' y y'
  refine children_induction fun x hEqual x' y y' hx hy => ?_
  cases hx with
  | null => cases hy <;> rfl
  | bool b => cases hy <;> rfl
  | string s => cases hy <;> rfl
  | number hx =>
    cases hy with
    | number hy => rw [equal, equal, Binary64.equal, Binary64.equal, hx.rank_eq, hy.rank_eq]
    | _ => rfl
  | array hx =>
    cases hy with
    | array hy => exact equalItems_congr hEqual hx hy
    | _ => rfl
  | object hKeys hValues =>
    cases hy with
    | object hKeys' hValues' =>
      have hLeft := forall₂_members hKeys hValues
      have hRight := forall₂_members hKeys' hValues'
      rw [equal, equal, membersWithin_congr hEqual hLeft hRight, hLeft.length_eq, hRight.length_eq]
    | _ => rfl

theorem less_congr (hx : x.Alike x') (hy : y.Alike y') : x.less y = x'.less y' := by
  cases hx with
  | number hx =>
    cases hy with
    | number hy => rw [less, less, Binary64.less, Binary64.less, hx.rank_eq, hy.rank_eq]
    | _ => rfl
  | _ => cases hy <;> rfl

theorem any_congr {R : Json → Json → Prop} {xs ys : List Json} {f g : Json → Bool} (h : List.Forall₂ R xs ys)
    (hTest : ∀ x y, R x y → f x = g y) : xs.any f = ys.any g := by
  induction h with
  | nil => rfl
  | cons hxy _ ih => rw [List.any_cons, List.any_cons, hTest _ _ hxy, ih]

theorem contains_congr (hx : x.Alike x') (hy : y.Alike y') : x.contains y = x'.contains y' := by
  cases hx with
  | array hx => exact any_congr hx fun _ _ hItem => equal_congr hItem hy
  | @object xs xs' hKeys hValues =>
    cases hy with
    | string s =>
      have hFound := get?_rel (forall₂_members hKeys hValues) s
      rw [contains, contains, Dict.hasKey, Dict.hasKey]
      generalize Dict.get? xs s = found, Dict.get? xs' s = found' at hFound ⊢
      cases hFound <;> rfl
    | _ => rfl
  | _ => cases hy <;> rfl

end Comparisons

end Json

end TemplateQuery
