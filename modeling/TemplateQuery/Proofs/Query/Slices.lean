import Mathlib.Data.List.Forall2
import Mathlib.Data.List.Perm.Subperm
import TemplateQuery.Query.Selection

/-!
# Slices in machine words

The positions of a slice lie a step apart between two bounds, and all of them lie in the array. So they can be found one
after the other in machine words: no sum leaves the word, apart from a last step that would pass the bound anyway, and the
search comes to an end.
-/
namespace TemplateQuery.Query

/-! ## Positions -/

/-- The positions `first`, `first + gap`, `first + 2 * gap` and so on, as far as a test lets them. -/
def StepsWhile (inside : Int → Bool) (gap first : Int) (positions : List Int) : Prop :=
  ∀ k : Nat, positions[k]? = if inside (first + k * gap) then some (first + k * gap) else none

section Steps

variable {inside : Int → Bool} {gap first limit : Int} {positions : List Int}

theorem stepsWhile_stepsBelow (hGap : 0 < gap) : StepsWhile (· < limit) gap first (stepsBelow first limit gap) := by
  intro k
  have hCount : k < ((limit - first + gap - 1) / gap).toNat ↔ first + k * gap < limit := by
    rw [Int.lt_toNat, Int.lt_iff_add_one_le, Int.le_ediv_iff_mul_le hGap, Int.add_mul]
    omega
  rw [stepsBelow, List.getElem?_map]
  simp only [decide_eq_true_eq]
  split
  · next hBelow => rw [List.getElem?_range (hCount.2 hBelow), Option.map_some]
  · next hBelow =>
    rw [List.getElem?_eq_none, Option.map_none]
    rw [List.length_range]
    omega

theorem stepsWhile_stepsAbove (hGap : gap < 0) :
    StepsWhile (limit < ·) gap first ((stepsBelow (-first) (-limit) (-gap)).map (-·)) := by
  intro k
  have hPosition : -(-first + k * -gap) = first + k * gap := by
    rw [Int.neg_add, Int.neg_neg, Int.mul_neg, Int.neg_neg]
  have hInside : -first + k * -gap < -limit ↔ limit < first + k * gap := by
    rw [← hPosition]
    omega
  rw [List.getElem?_map, stepsWhile_stepsBelow (by omega) k]
  simp only [decide_eq_true_eq, hInside]
  split
  · rw [Option.map_some, hPosition]
  · rfl

namespace StepsWhile

theorem of_mem (h : StepsWhile inside gap first positions) {i : Int} (hi : i ∈ positions) :
    inside i = true ∧ ∃ k : Nat, i = first + k * gap := by
  obtain ⟨k, hk⟩ := List.mem_iff_getElem?.1 hi
  rw [h k] at hk
  split at hk
  · cases hk
    exact ⟨by assumption, k, rfl⟩
  · cases hk

theorem getElem_eq (h : StepsWhile inside gap first positions) {k : Nat} (hk : k < positions.length) :
    positions[k] = first + k * gap := by
  have hPosition := h k
  rw [List.getElem?_eq_getElem hk] at hPosition
  split at hPosition
  · exact Option.some.inj hPosition
  · cases hPosition

theorem eq_nil (h : StepsWhile inside gap first positions) (hOutside : inside first = false) : positions = [] := by
  have hFirst := h 0
  simpa [hOutside] using hFirst

theorem head {i : Int} (h : StepsWhile inside gap first (i :: positions)) : i = first := by
  simpa using h.getElem_eq (k := 0) (Nat.zero_lt_succ _)

theorem tail {i : Int} (h : StepsWhile inside gap first (i :: positions)) :
    StepsWhile inside gap (first + gap) positions := by
  intro k
  have hNext := h (k + 1)
  have hShift : first + ((k + 1 : Nat) : Int) * gap = first + gap + k * gap := by
    rw [Int.natCast_succ, Int.add_mul, Int.one_mul]
    omega
  rwa [List.getElem?_cons_succ, hShift] at hNext

theorem increasing (h : StepsWhile inside gap first positions) (hGap : 0 < gap) : positions.Pairwise (· < ·) := by
  rw [List.pairwise_iff_getElem]
  intro i j hi hj hLess
  rw [h.getElem_eq hi, h.getElem_eq hj]
  have hMul : (i : Int) * gap < j * gap := Int.mul_lt_mul_of_pos_right (by omega) hGap
  omega

theorem decreasing (h : StepsWhile inside gap first positions) (hGap : gap < 0) : positions.Pairwise (· > ·) := by
  rw [List.pairwise_iff_getElem]
  intro i j hi hj hLess
  rw [h.getElem_eq hi, h.getElem_eq hj]
  have hMul : (j : Int) * gap < i * gap := Int.mul_lt_mul_of_neg_right (by omega) hGap
  omega

end StepsWhile

end Steps

/-! ## Machine words -/

/-- The integer is one of the signed machine words of which `top` is the largest. -/
def Fits (top i : Int) : Prop := -top - 1 ≤ i ∧ i ≤ top

instance (top i : Int) : Decidable (Fits top i) := inferInstanceAs (Decidable (_ ∧ _))

def fit? (top i : Int) : Option Int := if Fits top i then some i else none

/-- Brings an integer between two bounds, which have to be in order. -/
def clamp? (low high i : Int) : Option Int := if low ≤ high then some (clamp low high i) else none

/-- The elements at the positions from `i` on, `gap` apart, while a test holds. A step that would leave the word is the
last one. There is no result if a position lies outside the list, or if the steps do not end in so many rounds. -/
def walk {α : Type} (top : Int) (items : List α) (inside : Int → Bool) (gap : Int) : Nat → Int → Option (List α)
  | 0, _ => none
  | rounds + 1, i =>
    if inside i then do
      let x ← elementAt? items i
      if Fits top (i + gap) then
        let rest ← walk top items inside gap rounds (i + gap)
        return x :: rest
      else return [x]
    else return []

/-- A bound counted from the start of an array, in machine words. -/
def wordBound (top length : Int) (ifNone : Int) : Option Int → Option Int
  | none => some ifNone
  | some i => if i < 0 then fit? top (length + i) else some i

/-- A slice in machine words: there is no result if a sum or a difference leaves the word, if bounds are out of order, if
a position lies outside the array, or if the steps do not end in a round for each element and one for the last test. -/
def wordSlice {α : Type} (top : Int) (start stop step : Option Int) (items : List α) : Option (List α) := do
  let length ← fit? top items.length
  let gap := step.getD 1
  if 0 < gap then
    let lower ← clamp? 0 length (← wordBound top length 0 start)
    let upper ← clamp? 0 length (← wordBound top length length stop)
    walk top items (· < upper) gap (items.length + 1) lower
  else if gap < 0 then
    let last ← fit? top (length - 1)
    let upper ← clamp? (-1) last (← wordBound top length last start)
    let lower ← clamp? (-1) last (← wordBound top length (-1) stop)
    walk top items (lower < ·) gap (items.length + 1) upper
  else return []

section Words

variable {α : Type} {top : Int} {items : List α}

theorem fit?_eq_some {i : Int} (h : Fits top i) : fit? top i = some i := if_pos h

theorem clamp?_eq_some {low high : Int} (h : low ≤ high) (i : Int) : clamp? low high i = some (clamp low high i) :=
  if_pos h

theorem elementAt?_of_nonneg {i : Int} (h : 0 ≤ i) : elementAt? items i = items[i.toNat]? := if_neg (by omega)

theorem exists_elementAt? {i : Int} (h : 0 ≤ i ∧ i < items.length) : ∃ x, elementAt? items i = some x := by
  rw [elementAt?_of_nonneg h.1]
  exact ⟨_, List.getElem?_eq_getElem (by omega)⟩

/-- The steps come to an end if a finite list holds their positions, all positions lie in the array, and a step that
would leave the word would not be inside. -/
theorem walk_eq (top : Int) {inside : Int → Bool} {gap first : Int} {positions : List Int} {rounds : Nat}
    (hSteps : StepsWhile inside gap first positions) (hBounds : ∀ i ∈ positions, 0 ≤ i ∧ i < items.length)
    (hRounds : positions.length ≤ rounds)
    (hLeaves : ∀ i ∈ positions, ¬ Fits top (i + gap) → inside (i + gap) = false) :
    walk top items inside gap (rounds + 1) first = some (positions.filterMap (elementAt? items)) := by
  induction positions generalizing first rounds with
  | nil =>
    have hOutside : inside first = false := by
      have hFirst := hSteps 0
      simpa using hFirst
    rw [walk, hOutside]
    rfl
  | cons i rest ih =>
    obtain rfl := hSteps.head
    rw [List.forall_mem_cons] at hBounds hLeaves
    have hInside : inside i = true := (hSteps.of_mem List.mem_cons_self).1
    obtain ⟨x, hx⟩ := exists_elementAt? hBounds.1
    rw [walk, if_pos hInside, List.filterMap_cons_some hx, hx, Option.bind_eq_bind, Option.bind_some]
    by_cases hFits : Fits top (i + gap)
    · obtain ⟨rounds, rfl⟩ := Nat.exists_eq_add_one.2 (Nat.zero_lt_of_lt hRounds)
      rw [if_pos hFits, ih hSteps.tail hBounds.2 (Nat.le_of_succ_le_succ hRounds) hLeaves.2]
      rfl
    · rw [if_neg hFits, hSteps.tail.eq_nil (hLeaves.1 hFits)]
      rfl

theorem forall₂_elements {positions : List Int} (hBounds : ∀ i ∈ positions, 0 ≤ i ∧ i < items.length) :
    List.Forall₂ (fun i x => 0 ≤ i ∧ items[i.toNat]? = some x) positions
      (positions.filterMap (elementAt? items)) := by
  induction positions with
  | nil => exact .nil
  | cons i rest ih =>
    rw [List.forall_mem_cons] at hBounds
    obtain ⟨x, hx⟩ := exists_elementAt? hBounds.1
    rw [List.filterMap_cons_some hx]
    rw [elementAt?_of_nonneg hBounds.1.1] at hx
    exact .cons ⟨hBounds.1.1, hx⟩ (ih hBounds.2)

theorem wordBound_eq_some {length : Nat} (hLength : (length : Int) ≤ top) {i : Option Int} (hi : ∀ j ∈ i, Fits top j)
    (ifNone : Int) : wordBound top length ifNone i = some ((i.map (fromStart length)).getD ifNone) := by
  cases i with
  | none => rfl
  | some j =>
    have hj := hi j rfl
    rw [Option.map_some, Option.getD_some, wordBound, fromStart]
    split
    · exact fit?_eq_some ⟨by have := hj.1; omega, by omega⟩
    · rfl

end Words

/-! ## Slices -/

/-- A bound of a slice, counted from the start of the array and brought between two limits. -/
def boundWithin (length : Nat) (low high ifNone : Int) (i : Option Int) : Int :=
  clamp low high ((i.map (fromStart length)).getD ifNone)

theorem le_boundWithin (length : Nat) (low high ifNone : Int) (i : Option Int) :
    low ≤ boundWithin length low high ifNone i := by
  rw [boundWithin, clamp]
  omega

theorem boundWithin_le (length : Nat) (low high ifNone : Int) (i : Option Int) (h : low ≤ high) :
    boundWithin length low high ifNone i ≤ high := by
  rw [boundWithin, clamp]
  omega

section Slices

variable {start stop step : Option Int} {length : Nat}

/-- Upwards, the positions of a slice start at the first bound and stay below the second one. -/
theorem stepsWhile_slicePositions_up (hGap : 0 < step.getD 1) :
    StepsWhile (· < boundWithin length 0 length length stop) (step.getD 1) (boundWithin length 0 length 0 start)
      (slicePositions start stop step length) := by
  rw [slicePositions, if_pos hGap]
  exact stepsWhile_stepsBelow hGap

/-- Downwards, they start at the first bound and stay above the second one. -/
theorem stepsWhile_slicePositions_down (hGap : step.getD 1 < 0) :
    StepsWhile (boundWithin length (-1) (length - 1) (-1) stop < ·) (step.getD 1)
      (boundWithin length (-1) (length - 1) (length - 1) start) (slicePositions start stop step length) := by
  rw [slicePositions, if_neg (by omega), if_pos hGap]
  exact stepsWhile_stepsAbove hGap

theorem slicePositions_eq_nil (hGap : step.getD 1 = 0) : slicePositions start stop step length = [] := by
  rw [slicePositions, hGap]
  rfl

/-- All positions of a slice lie in the array. -/
theorem slicePositions_bounds : ∀ i ∈ slicePositions start stop step length, 0 ≤ i ∧ i < length := by
  intro i hi
  rcases Int.lt_trichotomy (step.getD 1) 0 with hGap | hGap | hGap
  · obtain ⟨hAbove, k, rfl⟩ := (stepsWhile_slicePositions_down hGap).of_mem hi
    have hFirst := boundWithin_le length (-1) (length - 1) (length - 1) start (by omega)
    have hLast := le_boundWithin length (-1) (length - 1) (-1) stop
    have hSteps : (k : Int) * step.getD 1 ≤ 0 := Int.mul_nonpos_of_nonneg_of_nonpos (by omega) (by omega)
    rw [decide_eq_true_eq] at hAbove
    omega
  · rw [slicePositions_eq_nil hGap] at hi
    cases hi
  · obtain ⟨hBelow, k, rfl⟩ := (stepsWhile_slicePositions_up hGap).of_mem hi
    have hFirst := le_boundWithin length 0 length 0 start
    have hLast := boundWithin_le length 0 length length stop (by omega)
    have hSteps : 0 ≤ (k : Int) * step.getD 1 := Int.mul_nonneg (by omega) (by omega)
    rw [decide_eq_true_eq] at hBelow
    omega

theorem slicePositions_nodup : (slicePositions start stop step length).Nodup := by
  rcases Int.lt_trichotomy (step.getD 1) 0 with hGap | hGap | hGap
  · exact ((stepsWhile_slicePositions_down hGap).decreasing hGap).imp Int.ne_of_gt
  · rw [slicePositions_eq_nil hGap]
    exact List.nodup_nil
  · exact ((stepsWhile_slicePositions_up hGap).increasing hGap).imp Int.ne_of_lt

/-- A slice has no more positions than the array has elements. -/
theorem length_slicePositions_le : (slicePositions start stop step length).length ≤ length := by
  have hSubset : slicePositions start stop step length ⊆ (List.range length).map Int.ofNat := by
    intro i hi
    have hBounds := slicePositions_bounds i hi
    exact List.mem_map.2 ⟨i.toNat, List.mem_range.2 (by omega), Int.toNat_of_nonneg hBounds.1⟩
  have hLength := (List.subperm_of_subset slicePositions_nodup hSubset).length_le
  rwa [List.length_map, List.length_range] at hLength

variable {α : Type} {top : Int} {items : List α}

/-- In machine words, a slice has a result, and it is the slice. -/
theorem wordSlice_eq (hLength : (items.length : Int) ≤ top) (hStart : ∀ i ∈ start, Fits top i)
    (hStop : ∀ i ∈ stop, Fits top i) : wordSlice top start stop step items = some (slice start stop step items) := by
  have hFits : fit? top items.length = some (items.length : Int) := fit?_eq_some ⟨by omega, hLength⟩
  have hBounds : ∀ i ∈ slicePositions start stop step items.length, 0 ≤ i ∧ i < items.length := slicePositions_bounds
  have hRounds : (slicePositions start stop step items.length).length ≤ items.length := length_slicePositions_le
  have hStart' := wordBound_eq_some hLength hStart
  have hStop' := wordBound_eq_some hLength hStop
  rw [slice, wordSlice, hFits, Option.bind_eq_bind, Option.bind_some]
  rcases Int.lt_trichotomy (step.getD 1) 0 with hGap | hGap | hGap
  · have hDown : ¬ 0 < step.getD 1 := by omega
    have hLast : fit? top ((items.length : Int) - 1) = some ((items.length : Int) - 1) :=
      fit?_eq_some ⟨by omega, by omega⟩
    have hWalk := walk_eq top (stepsWhile_slicePositions_down hGap) hBounds hRounds fun i hi hOut => by
      have hi := hBounds i hi
      have hLimit := le_boundWithin items.length (-1) (items.length - 1) (-1) stop
      rw [Fits] at hOut
      rw [decide_eq_false_iff_not]
      omega
    simp only [if_neg hDown, if_pos hGap, hLast, hStart', hStop', Option.bind_some,
      clamp?_eq_some (show (-1 : Int) ≤ items.length - 1 by omega)]
    exact hWalk
  · simp only [slicePositions_eq_nil hGap, hGap]
    rfl
  · have hWalk := walk_eq top (stepsWhile_slicePositions_up hGap) hBounds hRounds fun i hi hOut => by
      have hi := hBounds i hi
      have hLimit := boundWithin_le items.length 0 items.length items.length stop (by omega)
      rw [Fits] at hOut
      rw [decide_eq_false_iff_not]
      omega
    simp only [if_pos hGap, hStart', hStop', Option.bind_some, clamp?_eq_some (Int.natCast_nonneg items.length)]
    exact hWalk

end Slices

/-- A slice selects nothing from what is no array. From an array it selects the elements at certain positions, all of them
in the array: upwards from the first bound, a step apart, as far as they are below the second bound, or downwards as far
as they are above it; and none if the step is zero. And it can be computed in machine words that hold the length of the
array and the bounds. -/
theorem slice_selects_steps {top : Int} {start stop : Option Int} (hStart : ∀ i ∈ start, Fits top i)
    (hStop : ∀ i ∈ stop, Fits top i) (step : Option Int) (scope : Scope) :
    (∀ node : Json, (∀ items, node ≠ .array items) → select scope (.slice start stop step) node = .ok []) ∧
    ∀ items : List Json, (items.length : Int) ≤ top →
      ∃ positions selected,
        select scope (.slice start stop step) (.array items) = .ok selected ∧
        wordSlice top start stop step items = some selected ∧
        List.Forall₂ (fun i x => 0 ≤ i ∧ items[i.toNat]? = some x) positions selected ∧
        (0 < step.getD 1 → positions.Pairwise (· < ·) ∧
          StepsWhile (· < boundWithin items.length 0 items.length items.length stop) (step.getD 1)
            (boundWithin items.length 0 items.length 0 start) positions) ∧
        (step.getD 1 < 0 → positions.Pairwise (· > ·) ∧
          StepsWhile (boundWithin items.length (-1) (items.length - 1) (-1) stop < ·) (step.getD 1)
            (boundWithin items.length (-1) (items.length - 1) (items.length - 1) start) positions) ∧
        (step.getD 1 = 0 → selected = []) := by
  refine ⟨fun node hNode => ?_, fun items hLength => ?_⟩
  · cases node with
    | array items => exact absurd rfl (hNode items)
    | _ => rfl
  · refine ⟨slicePositions start stop step items.length, slice start stop step items, rfl,
      wordSlice_eq hLength hStart hStop, forall₂_elements slicePositions_bounds, fun hGap => ?_, fun hGap => ?_,
      fun hGap => ?_⟩
    · exact ⟨(stepsWhile_slicePositions_up hGap).increasing hGap, stepsWhile_slicePositions_up hGap⟩
    · exact ⟨(stepsWhile_slicePositions_down hGap).decreasing hGap, stepsWhile_slicePositions_down hGap⟩
    · rw [slice, slicePositions_eq_nil hGap]
      rfl

/-- The largest signed word of 64 bits. -/
def largestWord : Int := 9223372036854775807

/-- Bounds and steps at the ends of the word, on three elements and on none. -/
theorem slice_selects_steps_extremes :
    wordSlice largestWord (some (-largestWord - 1)) (some largestWord) (some 2)
      [Json.ofNat 4, .ofNat 5, .ofNat 6] = some [.ofNat 4, .ofNat 6] ∧
    wordSlice largestWord (some largestWord) none (some (-largestWord - 1))
      [Json.ofNat 4, .ofNat 5, .ofNat 6] = some [.ofNat 6] ∧
    wordSlice largestWord (some (-largestWord - 1)) (some largestWord) (some (-1)) ([] : List Json) = some [] := by
  have hLow : ∀ i ∈ some (-largestWord - 1), Fits largestWord i := by decide
  have hHigh : ∀ i ∈ some largestWord, Fits largestWord i := by decide
  have hNone : ∀ i ∈ (none : Option Int), Fits largestWord i := by decide
  have hThree : (([Json.ofNat 4, .ofNat 5, .ofNat 6] : List Json).length : Int) ≤ largestWord := by decide
  refine ⟨?_, ?_, ?_⟩
  · obtain ⟨-, selected, hSelect, hWords, -⟩ := (slice_selects_steps hLow hHigh (some 2) ⟨.null, .null, []⟩).2 _ hThree
    cases hSelect
    exact hWords
  · obtain ⟨-, selected, hSelect, hWords, -⟩ :=
      (slice_selects_steps hHigh hNone (some (-largestWord - 1)) ⟨.null, .null, []⟩).2 _ hThree
    cases hSelect
    exact hWords
  · obtain ⟨-, selected, hSelect, hWords, -⟩ :=
      (slice_selects_steps hLow hHigh (some (-1)) ⟨.null, .null, []⟩).2 [] (by decide)
    cases hSelect
    exact hWords

end TemplateQuery.Query
