import Mathlib.Algebra.Order.Group.Int
import Mathlib.Data.String.Basic
import TemplateQuery.Proofs.Json.Equality
import TemplateQuery.Proofs.Query.Alike

/-!
# What the comparisons mean

The eight comparisons of a filter are made of three tests: whether two sides are equal, whether the first is less and
whether the first contains the second. Equal sides cannot be told apart by any of them, and the order that `<=` puts on
the sides is that of the numbers and that of the strings, next to each other.
-/
namespace TemplateQuery

namespace Json

variable {x x' y y' z : Json}

/-! ## Order of values -/

/-- Only two numbers or two strings are ordered. -/
theorem less_iff : x.less y = true ↔
    (∃ a b : Number, x = .number a ∧ y = .number b ∧ a.toBinary64.rank < b.toBinary64.rank) ∨
    ∃ s t : String, x = .string s ∧ y = .string t ∧ s < t := by
  constructor
  · intro h
    cases x with
    | number a =>
      cases y with
      | number b => exact .inl ⟨a, b, rfl, rfl, of_decide_eq_true h⟩
      | _ => cases h
    | string s =>
      cases y with
      | string t => exact .inr ⟨s, t, rfl, rfl, of_decide_eq_true h⟩
      | _ => cases h
    | _ => cases h
  · rintro (⟨a, b, rfl, rfl, h⟩ | ⟨s, t, rfl, rfl, h⟩)
    · exact decide_eq_true h
    · exact decide_eq_true h

theorem less_trans (h : x.less y = true) (h' : y.less z = true) : x.less z = true := by
  rw [less_iff] at h h' ⊢
  rcases h with ⟨a, b, rfl, rfl, h⟩ | ⟨s, t, rfl, rfl, h⟩
  · rcases h' with ⟨_, c, hb, rfl, h'⟩ | ⟨_, _, hb, -⟩
    · cases hb
      exact .inl ⟨a, c, rfl, rfl, lt_trans h h'⟩
    · cases hb
  · rcases h' with ⟨_, _, ht, -⟩ | ⟨_, u, ht, rfl, h'⟩
    · cases ht
    · cases ht
      exact .inr ⟨s, u, rfl, rfl, lt_trans h h'⟩

theorem Same.not_less (h : x.Same y) : ¬ x.less y = true := by
  rw [less_iff]
  rintro (⟨a, b, rfl, rfl, hLess⟩ | ⟨s, t, rfl, rfl, hLess⟩)
  · cases h with
    | number h => exact ne_of_lt hLess h.rank_eq
  · cases h
    exact lt_irrefl _ hLess

theorem Same.less_congr (hx : x.Same x') (hy : y.Same y') : x.less y = x'.less y' := by
  cases hx with
  | number hx =>
    cases hy with
    | number hy => rw [less, less, Binary64.less, Binary64.less, hx.rank_eq, hy.rank_eq]
    | _ => rfl
  | string s => cases hy <;> rfl
  | _ => rfl

theorem number_trichotomy (a b : Number) :
    (number a).less (.number b) = true ∨ (number a).Same (.number b) ∨ (number b).less (.number a) = true := by
  rcases lt_trichotomy a.toBinary64.rank b.toBinary64.rank with h | h | h
  · exact .inl (decide_eq_true h)
  · exact .inr (.inl (.number (decide_eq_true h)))
  · exact .inr (.inr (decide_eq_true h))

theorem string_trichotomy (s t : String) :
    (string s).less (.string t) = true ∨ (string s).Same (.string t) ∨ (string t).less (.string s) = true := by
  rcases lt_trichotomy s t with h | rfl | h
  · exact .inl (decide_eq_true h)
  · exact .inr (.inl (.string s))
  · exact .inr (.inr (decide_eq_true h))

/-! ## Equal values in comparisons -/

/-- Values that are the same, and neither of them repeats a name. -/
structure SameDistinct (x y : Json) : Prop where
  same : x.Same y
  left : x.NamesDistinct
  right : y.NamesDistinct

theorem SameDistinct.equal_congr (hx : x.SameDistinct x') (hy : y.SameDistinct y') : x.equal y = x'.equal y' := by
  rw [Bool.eq_iff_iff, equal_iff_same hx.left hy.left, equal_iff_same hx.right hy.right]
  exact ⟨fun h => (hx.same.symm.trans h).trans hy.same, fun h => (hx.same.trans h).trans hy.same.symm⟩

theorem SameDistinct.contains_congr (hx : x.SameDistinct x') (hy : y.SameDistinct y') :
    x.contains y = x'.contains y' := by
  obtain ⟨hSame, hLeft, hRight⟩ := hx
  cases hSame with
  | array hItems =>
    have hDistinct := (forall₂_congr_of_mem fun x hx x' hx' =>
      ⟨fun h => SameDistinct.mk h (hLeft.children x hx) (hRight.children x' hx'), SameDistinct.same⟩).1 hItems
    exact any_congr hDistinct fun _ _ hItem => hItem.equal_congr hy
  | @object xs xs' hMembers =>
    obtain ⟨hSame, -, -⟩ := hy
    cases hSame with
    | string s =>
      have hFound := hMembers s
      rw [contains, contains, Dict.hasKey, Dict.hasKey]
      generalize Dict.get? xs s = found, Dict.get? xs' s = found' at hFound ⊢
      cases hFound <;> rfl
    | _ => rfl
  | string s =>
    obtain ⟨hSame, -, -⟩ := hy
    cases hSame <;> rfl
  | _ => rfl

end Json

namespace Query

/-! ## Sides -/

/-- What a comparison may see on one side: nothing, or a value that repeats no name. -/
structure Side where
  value? : Option Json
  namesDistinct : ∀ x ∈ value?, x.NamesDistinct

namespace Side

/-- A document that was read. -/
def ofRead {text : String} {x : Json} (h : Json.parse? text = some x) : Side where
  value? := some x
  namesDistinct := by
    intro y hy
    cases hy
    exact Json.namesDistinct_of_parse? h

def Holds (op : Comparison) (l r : Side) : Prop := op.holds l.value? r.value? = true

variable {l l' m r r' : Side}

theorem holds_equal_iff : l.Holds .equal r ↔ Option.Rel Json.Same l.value? r.value? := by
  obtain ⟨l?, hl⟩ := l
  obtain ⟨r?, hr⟩ := r
  cases l? with
  | none => cases r? <;> simp [Holds, Comparison.holds, Comparison.equalSides]
  | some x =>
    cases r? with
    | none => simp [Holds, Comparison.holds, Comparison.equalSides]
    | some y =>
      rw [Option.rel_some_some]
      exact Json.equal_iff_same (hl x rfl) (hr y rfl)

theorem holds_less_iff : l.Holds .less r ↔
    ∃ x y, l.value? = some x ∧ r.value? = some y ∧ x.less y = true := by
  obtain ⟨l?, hl⟩ := l
  obtain ⟨r?, hr⟩ := r
  cases l? <;> cases r? <;> simp [Holds, Comparison.holds, Comparison.lessSides]

theorem holds_lessEqual_iff : l.Holds .lessEqual r ↔ l.Holds .less r ∨ l.Holds .equal r := by
  rw [Holds, Comparison.holds, Bool.or_eq_true]
  rfl

theorem holds_greaterEqual_iff : l.Holds .greaterEqual r ↔ r.Holds .less l ∨ l.Holds .equal r := by
  rw [Holds, Comparison.holds, Bool.or_eq_true]
  rfl

/-! ## Equality -/

theorem equal_refl (l : Side) : l.Holds .equal l := by
  rw [holds_equal_iff]
  cases l.value? with
  | none => exact .none
  | some x => exact .some (Json.Same.refl x)

theorem equal_symm (h : l.Holds .equal r) : r.Holds .equal l := by
  rw [holds_equal_iff] at h ⊢
  exact Json.rel_symm_of_mem h fun _ _ _ => Json.Same.symm

theorem equal_trans (h : l.Holds .equal m) (h' : m.Holds .equal r) : l.Holds .equal r := by
  rw [holds_equal_iff] at h h' ⊢
  exact Json.rel_trans_of_mem h h' fun _ _ _ _ => Json.Same.trans

theorem equal_of_reordered (h : Option.Rel Json.Reordered l.value? r.value?) : l.Holds .equal r := by
  rw [holds_equal_iff]
  have hDistinct := l.namesDistinct
  generalize l.value? = l?, r.value? = r? at h hDistinct
  cases h with
  | none => exact .none
  | some h => exact .some (h.same (hDistinct _ rfl))

/-- Equal sides are interchangeable in every comparison. -/
theorem holds_congr (op : Comparison) (hl : l.Holds .equal l') (hr : r.Holds .equal r') :
    l.Holds op r ↔ l'.Holds op r' := by
  have hRel (s s' : Side) (h : s.Holds .equal s') : Option.Rel Json.SameDistinct s.value? s'.value? := by
    refine (Json.rel_congr_of_mem fun x hx x' hx' => ?_).1 (holds_equal_iff.1 h)
    exact ⟨fun hSame => ⟨hSame, s.namesDistinct x hx, s'.namesDistinct x' hx'⟩, Json.SameDistinct.same⟩
  rw [Holds, Holds, Comparison.holds_congr_of (fun _ _ _ _ => Json.SameDistinct.equal_congr)
    (fun _ _ _ _ hx hy => hx.same.less_congr hy.same) (fun _ _ _ _ => Json.SameDistinct.contains_congr)
    (hRel l l' hl) (hRel r r' hr)]

/-! ## Order -/

theorem less_trans (h : l.Holds .less m) (h' : m.Holds .less r) : l.Holds .less r := by
  rw [holds_less_iff] at h h' ⊢
  obtain ⟨x, y, hl, hm, hxy⟩ := h
  obtain ⟨y', z, hm', hr, hyz⟩ := h'
  rw [hm] at hm'
  cases hm'
  exact ⟨x, z, hl, hr, Json.less_trans hxy hyz⟩

theorem not_less_of_equal (h : l.Holds .equal r) : ¬ l.Holds .less r := by
  rw [holds_less_iff]
  rintro ⟨x, y, hl, hr, hLess⟩
  rw [holds_equal_iff, hl, hr, Option.rel_some_some] at h
  exact h.not_less hLess

theorem lessEqual_trans (h : l.Holds .lessEqual m) (h' : m.Holds .lessEqual r) : l.Holds .lessEqual r := by
  rw [holds_lessEqual_iff] at h h' ⊢
  rcases h with h | h
  · rcases h' with h' | h'
    · exact .inl (less_trans h h')
    · exact .inl ((holds_congr .less (equal_refl l) h').1 h)
  · rcases h' with h' | h'
    · exact .inl ((holds_congr .less h (equal_refl r)).2 h')
    · exact .inr (equal_trans h h')

theorem lessEqual_antisymm (h : l.Holds .lessEqual r) (h' : r.Holds .lessEqual l) : l.Holds .equal r := by
  rw [holds_lessEqual_iff] at h h'
  rcases h with h | h
  · rcases h' with h' | h'
    · exact absurd (less_trans h h') (not_less_of_equal (equal_refl l))
    · exact equal_symm h'
  · exact h

theorem less_iff_lessEqual_and_not_equal : l.Holds .less r ↔ l.Holds .lessEqual r ∧ ¬ l.Holds .equal r := by
  rw [holds_lessEqual_iff, or_and_right, and_not_self_iff, or_false]
  exact ⟨fun h => ⟨h, fun hEqual => not_less_of_equal hEqual h⟩, And.left⟩

/-- Sides that hold one of two values are comparable if the values are. -/
theorem lessEqual_total {x y : Json} (hl : l.value? = some x) (hr : r.value? = some y)
    (h : x.less y = true ∨ x.Same y ∨ y.less x = true) : l.Holds .lessEqual r ∨ r.Holds .lessEqual l := by
  rw [holds_lessEqual_iff, holds_lessEqual_iff, holds_less_iff, holds_less_iff, holds_equal_iff]
  rcases h with h | h | h
  · exact .inl (.inl ⟨x, y, hl, hr, h⟩)
  · refine .inl (.inr ?_)
    rw [hl, hr]
    exact .some h
  · exact .inr (.inl ⟨y, x, hr, hl, h⟩)

end Side

/-- Equality is an equivalence and takes no notice of the order of members, equal sides are interchangeable in all
comparisons, `<=` is an order up to equality in which any two numbers and any two strings are comparable, `<` is its
strict part, and the other comparisons are the negation of equality and mirror images. -/
theorem comparisons_are_sound :
    Equivalence (Side.Holds .equal) ∧
    (∀ l r : Side, Option.Rel Json.Reordered l.value? r.value? → l.Holds .equal r) ∧
    (∀ (op : Comparison) (l l' r r' : Side), l.Holds .equal l' → r.Holds .equal r' →
      (l.Holds op r ↔ l'.Holds op r')) ∧
    (∀ l : Side, l.Holds .lessEqual l) ∧
    (∀ l m r : Side, l.Holds .lessEqual m → m.Holds .lessEqual r → l.Holds .lessEqual r) ∧
    (∀ l r : Side, l.Holds .lessEqual r → r.Holds .lessEqual l → l.Holds .equal r) ∧
    (∀ l r : Side, l.Holds .less r ↔ l.Holds .lessEqual r ∧ ¬ l.Holds .equal r) ∧
    (∀ (l r : Side) (a b : Number), l.value? = some (.number a) → r.value? = some (.number b) →
      l.Holds .lessEqual r ∨ r.Holds .lessEqual l) ∧
    (∀ (l r : Side) (s t : String), l.value? = some (.string s) → r.value? = some (.string t) →
      l.Holds .lessEqual r ∨ r.Holds .lessEqual l) ∧
    ∀ l r : Side,
      (l.Holds .notEqual r ↔ ¬ l.Holds .equal r) ∧ (l.Holds .greater r ↔ r.Holds .less l) ∧
      (l.Holds .greaterEqual r ↔ r.Holds .lessEqual l) ∧ (l.Holds .isIn r ↔ r.Holds .contains l) := by
  refine ⟨⟨Side.equal_refl, Side.equal_symm, Side.equal_trans⟩, fun l r => Side.equal_of_reordered,
    fun op l l' r r' => Side.holds_congr op, fun l => ?_, fun l m r => Side.lessEqual_trans,
    fun l r => Side.lessEqual_antisymm, fun l r => Side.less_iff_lessEqual_and_not_equal,
    fun l r a b hl hr => Side.lessEqual_total hl hr (Json.number_trichotomy a b),
    fun l r s t hl hr => Side.lessEqual_total hl hr (Json.string_trichotomy s t), fun l r => ⟨?_, Iff.rfl, ?_, Iff.rfl⟩⟩
  · exact Side.holds_lessEqual_iff.2 (.inr (Side.equal_refl l))
  · simp [Side.Holds, Comparison.holds]
  · rw [Side.holds_greaterEqual_iff, Side.holds_lessEqual_iff]
    exact or_congr_right ⟨Side.equal_symm, Side.equal_symm⟩

def box : Json := .object [("kind", .string "box"), ("lid", .object [("open", .bool true), ("lock", .null)])]

/-- The same box with the members of both objects the other way round. -/
def boxReordered : Json := .object [("lid", .object [("lock", .null), ("open", .bool true)]), ("kind", .string "box")]

theorem parse?_box :
    Json.parse? "\x7b\"kind\": \"box\", \"lid\": \x7b\"open\": true, \"lock\": null\x7d\x7d" = some box := by
  cbv

theorem parse?_boxReordered :
    Json.parse? "\x7b\"lid\": \x7b\"lock\": null, \"open\": true\x7d, \"kind\": \"box\"\x7d" =
      some boxReordered := by
  cbv

theorem parse?_kind : Json.parse? "\"kind\"" = some (.string "kind") := by cbv

theorem comparisons_are_sound_box :
    (Side.ofRead parse?_box).Holds .equal (.ofRead parse?_boxReordered) ∧
    (Side.ofRead parse?_boxReordered).Holds .equal (.ofRead parse?_box) ∧
    (Side.ofRead parse?_box).Holds .lessEqual (.ofRead parse?_box) ∧
    ¬ (Side.ofRead parse?_box).Holds .less (.ofRead parse?_boxReordered) ∧
    (Side.ofRead parse?_boxReordered).Holds .contains (.ofRead parse?_kind) ∧
    (Side.ofRead parse?_kind).Holds .isIn (.ofRead parse?_boxReordered) := by
  obtain ⟨hEquivalence, hReordered, hCongr, hRefl, -, -, hLess, -, -, hMirror⟩ := comparisons_are_sound
  have hBoxes : box.Reordered boxReordered :=
    .object (List.Perm.swap _ _ []) rfl
      (.cons (.object (List.Perm.swap _ _ []) rfl (.cons .null (.cons (.bool true) .nil))) (.cons (.string "box") .nil))
  have hEqual : (Side.ofRead parse?_box).Holds .equal (.ofRead parse?_boxReordered) :=
    hReordered _ _ (.some hBoxes)
  have hContains : (Side.ofRead parse?_box).Holds .contains (.ofRead parse?_kind) := rfl
  have hContains' : (Side.ofRead parse?_boxReordered).Holds .contains (.ofRead parse?_kind) :=
    (hCongr .contains _ _ _ _ hEqual (hEquivalence.refl _)).1 hContains
  obtain ⟨-, -, -, hIsIn⟩ := hMirror (.ofRead parse?_kind) (.ofRead parse?_boxReordered)
  exact ⟨hEqual, hEquivalence.symm hEqual, hRefl _, fun h => ((hLess _ _).1 h).2 hEqual, hContains', hIsIn.2 hContains'⟩

end Query

end TemplateQuery
