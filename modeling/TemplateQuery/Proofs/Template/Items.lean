import Mathlib.Algebra.Order.Floor.Semifield
import Mathlib.Data.Rat.Floor
import TemplateQuery.Proofs.Steps
import TemplateQuery.Template.Loop

/-!
# Items of a loop

A loop takes the elements of its target, drops as many of them as the offset says, keeps as many of the others as the
limit says, and may turn what is left around. An offset or a limit is a number, of which only the integer part counts, or
null or undefined and then as good as missing; other data is refused. With a limit of `k` and the offsets `0`, `k`, `2k`
and so on, the loops go through all elements page by page.
-/
namespace TemplateQuery

/-! ## Numbers -/

/-- The value of a finite number as a fraction. -/
def Binary64.toRat (x : Binary64) : ℚ := (if x.negative then -1 else 1) * (x.significand * 2 ^ x.exponent)

def Number.toRat : Number → ℚ
  | .int i => i
  | .real x => x.toRat

/-- The integer part of a fraction, toward zero. -/
def integerPart (q : ℚ) : ℤ := if 0 ≤ q then ⌊q⌋ else ⌈q⌉

@[simp] theorem integerPart_intCast (i : ℤ) : integerPart i = i := by simp [integerPart]

theorem integerPart_nonpos {q : ℚ} (h : q ≤ 0) : integerPart q ≤ 0 := by
  rw [integerPart]
  split
  · exact Int.floor_nonpos h
  · exact Int.ceil_le.2 (by exact_mod_cast h)

theorem toNat_integerPart (q : ℚ) : (integerPart q).toNat = ⌊q⌋₊ := by
  by_cases h : 0 ≤ q
  · rw [integerPart, if_pos h, Int.floor_toNat]
  · have hq : q ≤ 0 := le_of_not_ge h
    rw [Int.toNat_of_nonpos (integerPart_nonpos hq), Nat.floor_of_nonpos hq]

theorem two_zpow_eq (e : ℤ) : (2 : ℚ) ^ e = (twoPow e.toNat : ℚ) / twoPow (-e).toNat := by
  rcases e.eq_nat_or_neg with ⟨n, rfl | rfl⟩ <;> simp [twoPow, zpow_neg]

theorem Binary64.floorNat_eq (x : Binary64) : x.floorNat = (integerPart x.toRat).toNat := by
  have hSize : (0 : ℚ) ≤ x.significand * 2 ^ x.exponent :=
    mul_nonneg (Nat.cast_nonneg _) (zpow_nonneg (by norm_num) _)
  rw [floorNat, toRat]
  split
  · rw [Int.toNat_of_nonpos (integerPart_nonpos (by linarith))]
  · rw [toNat_integerPart, one_mul, two_zpow_eq, ← mul_div_assoc, ← Nat.cast_mul, Nat.floor_div_eq_div]

namespace Template

theorem countOf_eq (n : Number) : countOf n = min (integerPart n.toRat).toNat (2 ^ 64 - 1) := by
  cases n with
  | int i => rw [countOf, Number.toRat, integerPart_intCast]; rfl
  | real x => rw [countOf, x.floorNat_eq]; rfl

/-! ## Bounds -/

/-- An offset or a limit is data that is neither a number nor null. -/
def Refused (context : RenderContext) (bound : Option Expression) : Prop :=
  ∃ e found, bound = some e ∧ e.evaluate context = .defined found ∧ found ≠ .null ∧ ∀ n, found ≠ .number n

/-- How many items an offset or a limit stands for, if it stands for any number of them. -/
def boundCount (context : RenderContext) (bound : Option Expression) : Option Nat :=
  match bound.map (Expression.evaluate context) with
  | some (.defined (.number n)) => some (min (integerPart n.toRat).toNat (2 ^ 64 - 1))
  | _ => none

section Bounds

variable {context : RenderContext} {bound : Option Expression}

theorem evaluateBound_of_not_refused (name : String) (h : ¬Refused context bound) :
    evaluateBound context name bound = .ok (boundCount context bound) := by
  cases bound with
  | none => rfl
  | some e =>
    rw [evaluateBound, boundCount, Option.map_some]
    cases hValue : e.evaluate context with
    | undefined hint => rfl
    | defined found =>
      cases found with
      | null => rfl
      | number n => rw [boundOf, countOf_eq]
      | bool _ | string _ | array _ | object _ => exact absurd ⟨e, _, rfl, hValue, nofun, nofun⟩ h

theorem evaluateBound_of_refused (name : String) (h : Refused context bound) :
    ∃ problem, evaluateBound context name bound = .error (.type problem) := by
  obtain ⟨e, found, rfl, hValue, hNull, hNumber⟩ := h
  rw [evaluateBound, hValue]
  cases found with
  | null => exact absurd rfl hNull
  | number n => exact absurd rfl (hNumber n)
  | bool _ | string _ | array _ | object _ => exact ⟨_, rfl⟩

end Bounds

/-! ## Items -/

/-- The items of a value before any modifier. -/
inductive BaseItems : Value → List Json → Prop where
  | array (items : List Json) : BaseItems (.defined (.array items)) items
  | object (members : Dict Json) :
    BaseItems (.defined (.object members)) (members.map fun (key, x) => .array [.string key, x])
  | other {value : Value} (hArray : ∀ items, value ≠ .defined (.array items))
    (hObject : ∀ members, value ≠ .defined (.object members)) : BaseItems value []

theorem baseItems_itemsOf (target : Value) : BaseItems target (itemsOf target) := by
  cases target with
  | undefined hint => exact .other nofun nofun
  | defined json =>
    cases json with
    | array items => exact .array items
    | object members => exact .object members
    | null | bool _ | number _ | string _ => exact .other nofun nofun

/-- Items with the first ones dropped, cut and perhaps turned around. -/
def arranged (offset limit : Option Nat) (reversed : Bool) (base : List Json) : List Json :=
  let left := base.drop (offset.getD 0)
  let kept := limit.elim left left.take
  if reversed then kept.reverse else kept

section Items

variable {m : Modifiers} {mode : UndefinedMode} {context : RenderContext} {target : Value}

theorem UndefinedMode.check_of_defined (h : mode = .strict → target.isUndefined = false) : mode.check target = .ok () := by
  cases mode with
  | lenient => rfl
  | strict =>
    cases target with
    | defined json => rfl
    | undefined hint => cases h rfl

theorem Modifiers.apply_of_not_refused (hOffset : ¬Refused context m.offset) (hLimit : ¬Refused context m.limit)
    (base : List Json) :
    m.apply context base = .ok (arranged (boundCount context m.offset) (boundCount context m.limit) m.reversed base) := by
  rw [apply, evaluateBound_of_not_refused _ hOffset, evaluateBound_of_not_refused _ hLimit]
  cases boundCount context m.limit <;> rfl

theorem Modifiers.apply_of_refused (h : Refused context m.offset ∨ Refused context m.limit) (base : List Json) :
    ∃ problem, m.apply context base = .error (.type problem) := by
  rw [apply]
  by_cases hOffset : Refused context m.offset
  · obtain ⟨problem, hError⟩ := evaluateBound_of_refused "offset" hOffset
    exact ⟨problem, by rw [hError, error_bind]⟩
  · obtain ⟨problem, hError⟩ := evaluateBound_of_refused "limit" (h.resolve_left hOffset)
    exact ⟨problem, by rw [evaluateBound_of_not_refused _ hOffset, ok_bind, hError, error_bind]⟩

/-! ## Pages -/

theorem drop_min_eq {base : List Json} {greatest : Nat} (h : base.length ≤ greatest) (n : Nat) :
    base.drop (min n greatest) = base.drop n := by
  rcases Nat.le_total n greatest with hn | hn
  · rw [Nat.min_eq_left hn]
  · rw [Nat.min_eq_right hn, List.drop_eq_nil_of_le h, List.drop_eq_nil_of_le (h.trans hn)]

theorem take_min_eq {base : List Json} {greatest : Nat} (h : base.length ≤ greatest) (n : Nat) :
    base.take (min n greatest) = base.take n := by
  rcases Nat.le_total n greatest with hn | hn
  · rw [Nat.min_eq_left hn]
  · rw [Nat.min_eq_right hn, List.take_of_length_le h, List.take_of_length_le (h.trans hn)]

theorem flatMap_pages (base : List Json) (size pages : Nat) :
    ((List.range pages).flatMap fun page => (base.drop (page * size)).take size) = base.take (pages * size) := by
  induction pages with
  | zero => simp
  | succ pages ih =>
    rw [List.range_succ, List.flatMap_append, ih, List.flatMap_singleton, Nat.succ_mul, List.take_add]

/-- The value of an expression is a number with that integer part. -/
def ValuedAt (context : RenderContext) (e : Expression) (n : Nat) : Prop :=
  ∃ number, e.evaluate context = .defined (.number number) ∧ integerPart number.toRat = n

theorem ValuedAt.not_refused {e : Expression} {n : Nat} (h : ValuedAt context e n) : ¬Refused context (some e) := by
  obtain ⟨number, hValue, -⟩ := h
  rintro ⟨_, found, ⟨⟩, hFound, -, hNumber⟩
  rw [hValue] at hFound
  cases hFound
  exact hNumber number rfl

theorem ValuedAt.boundCount_eq {e : Expression} {n : Nat} (h : ValuedAt context e n) :
    boundCount context (some e) = some (min n (2 ^ 64 - 1)) := by
  obtain ⟨number, hValue, hPart⟩ := h
  rw [boundCount, Option.map_some, hValue]
  simp only [hPart, Int.toNat_natCast]

/-- The loop over one page. -/
theorem items_page {base : List Json} (hLength : base.length ≤ 2 ^ 64 - 1) {limit offset : Expression} {size start : Nat}
    (hLimit : ValuedAt context limit size) (hOffset : ValuedAt context offset start) :
    (Modifiers.mk (some limit) (some offset) false).apply context base = .ok ((base.drop start).take size) := by
  rw [Modifiers.apply_of_not_refused hOffset.not_refused hLimit.not_refused, hOffset.boundCount_eq,
    hLimit.boundCount_eq]
  have hRest : (base.drop start).length ≤ 2 ^ 64 - 1 := by
    rw [List.length_drop]
    omega
  simp only [arranged, Option.getD_some, Option.elim_some, Bool.false_eq_true, if_false, drop_min_eq hLength,
    take_min_eq hRest]

end Items

/-- An undefined target fails in strict mode, before its modifiers are looked at. Any other target has its items: if the
offset or the limit is data other than a number and null, the loop fails with a type error, and if not, the items are
dropped, cut and turned around as the modifiers say. So with a page size as the limit and its multiples as the offsets,
the pages make up all the items, in order, as long as these are no more than the greatest count. -/
theorem modifiers_drop_cut_reverse (m : Modifiers) (mode : UndefinedMode) (context : RenderContext) (target : Value) :
    ∃ base, BaseItems target base ∧
      (∀ hint, mode = .strict → target = .undefined hint →
        m.itemsOf mode context target = .error (.undefined hint)) ∧
      ((mode = .strict → target.isUndefined = false) →
        ((∃ problem, m.itemsOf mode context target = .error (.type problem)) ↔
          Refused context m.offset ∨ Refused context m.limit) ∧
        (¬(Refused context m.offset ∨ Refused context m.limit) →
          m.itemsOf mode context target =
            .ok (arranged (boundCount context m.offset) (boundCount context m.limit) m.reversed base)) ∧
        ∀ limit size (offset : Nat → Expression) pages, ValuedAt context limit size →
          (∀ page < pages, ValuedAt context (offset page) (page * size)) → base.length ≤ 2 ^ 64 - 1 →
          base.length ≤ pages * size →
          ∃ items : Nat → List Json,
            (∀ page < pages,
              Modifiers.itemsOf ⟨some limit, some (offset page), false⟩ mode context target = .ok (items page)) ∧
            (List.range pages).flatMap items = base) := by
  refine ⟨itemsOf target, baseItems_itemsOf target, ?_, fun hDefined => ?_⟩
  · rintro hint rfl rfl
    rfl
  have hItems : ∀ m : Modifiers, m.itemsOf mode context target = m.apply context (itemsOf target) := by
    intro m
    rw [Modifiers.itemsOf, UndefinedMode.check_of_defined hDefined, ok_bind]
  refine ⟨?_, fun hBounds => ?_, ?_⟩
  · rw [hItems]
    refine ⟨?_, fun hBounds => Modifiers.apply_of_refused hBounds _⟩
    rintro ⟨problem, hError⟩
    by_contra hBounds
    rw [not_or] at hBounds
    rw [Modifiers.apply_of_not_refused hBounds.1 hBounds.2] at hError
    cases hError
  · rw [not_or] at hBounds
    rw [hItems, Modifiers.apply_of_not_refused hBounds.1 hBounds.2]
  · intro limit size offset pages hLimit hOffset hLength hPages
    refine ⟨fun page => ((itemsOf target).drop (page * size)).take size, fun page hPage => ?_, ?_⟩
    · rw [hItems, items_page hLength hLimit (hOffset page hPage)]
    · rw [flatMap_pages, List.take_of_length_le hPages]

/-- Five items, two to a page. -/
def fiveRows : List Json := [.ofNat 1, .ofNat 2, .ofNat 3, .ofNat 4, .ofNat 5]

theorem valuedAt_literal (context : RenderContext) (n : Nat) : ValuedAt context (.literal (.ofNat n)) n :=
  ⟨.int n, rfl, integerPart_intCast n⟩

theorem modifiers_drop_cut_reverse_fiveRows :
    ∃ items : Nat → List Json,
      (∀ page < 3,
        Modifiers.itemsOf ⟨some (.literal (.ofNat 2)), some (.literal (.ofNat (page * 2))), false⟩ .strict
          (.ofGlobals .null) (.defined (.array fiveRows)) = .ok (items page)) ∧
      (List.range 3).flatMap items = fiveRows := by
  obtain ⟨base, hBase, -, hItems⟩ :=
    modifiers_drop_cut_reverse .initial .strict (.ofGlobals .null) (.defined (.array fiveRows))
  cases hBase with
  | other hArray => exact absurd rfl (hArray fiveRows)
  | array =>
    obtain ⟨-, -, hPages⟩ := hItems fun _ => rfl
    exact hPages _ 2 _ 3 (valuedAt_literal _ 2) (fun page _ => valuedAt_literal _ (page * 2)) (by decide) (by decide)

end Template

end TemplateQuery
