import Mathlib
import TemplateQuery.Pattern.Basic

/-!
# What patterns match

`Matches` says which parts of a text match a pattern, by the pieces of the pattern and without any search. The positions
that `ends` computes are exactly the ends of such parts. The search for a repetition always comes to its end: a position
beyond the text is never reached, so there are only so many positions left to be found.
-/
namespace TemplateQuery.Pattern

/-- From one position to another in `n` steps. -/
def Times (r : Nat → Nat → Prop) : (n : Nat) → Nat → Nat → Prop
  | 0, i, j => i = j
  | n + 1, i, j => ∃ k, r i k ∧ Times r n k j

mutual

/-- The text from position `i` up to position `j` matches the pattern. A repetition whose bounds are the wrong way round
takes the lower one. -/
def Matches (text : Subject) : Pattern → Nat → Nat → Prop
  | .empty, i, j => i = j
  | .chars set _, i, j => (∃ c, text[i]? = some c ∧ set.contains c = true) ∧ i + 1 = j
  | .look assertion, i, j => assertion.holds text i = true ∧ i = j
  | .concat parts, i, j => MatchesInTurn text parts i j
  | .alternate branches, i, j => MatchesOne text branches i j
  | .repeated body least most, i, j =>
    ∃ n, least ≤ n ∧ (∀ m ∈ most, n ≤ max least m) ∧ Times (Matches text body) n i j
  | .group body, i, j => Matches text body i j
termination_by structural p => p

def MatchesInTurn (text : Subject) : List Pattern → Nat → Nat → Prop
  | [], i, j => i = j
  | part :: rest, i, j => ∃ k, Matches text part i k ∧ MatchesInTurn text rest k j
termination_by structural p => p

def MatchesOne (text : Subject) : List Pattern → Nat → Nat → Prop
  | [], _, _ => False
  | branch :: rest, i, j => Matches text branch i j ∨ MatchesOne text rest i j
termination_by structural p => p

end

/-! ## Steps between positions -/

section Steps

variable {size : Nat} {step : List Nat → List Nat} {r : Nat → Nat → Prop}

/-- No step leads back, or out of the text. -/
def Forward (size : Nat) (r : Nat → Nat → Prop) : Prop :=
  ∀ ⦃i j⦄, r i j → i ≤ size → i ≤ j ∧ j ≤ size

/-- From positions in the text, `step` computes what one step of `r` reaches. -/
def Computes (size : Nat) (step : List Nat → List Nat) (r : Nat → Nat → Prop) : Prop :=
  ∀ ⦃ps⦄, (∀ i ∈ ps, i ≤ size) → ∀ j, j ∈ step ps ↔ ∃ i ∈ ps, r i j

theorem Forward.times (h : Forward size r) (n : Nat) : Forward size (Times r n) := by
  induction n with
  | zero =>
    rintro i j rfl hi
    exact ⟨le_rfl, hi⟩
  | succ n ih =>
    rintro i j ⟨k, hk, hj⟩ hi
    obtain ⟨hik, hk⟩ := h hk hi
    obtain ⟨hkj, hj⟩ := ih hj hk
    exact ⟨hik.trans hkj, hj⟩

/-- A set that no step leaves is not left by many steps either. -/
theorem mem_of_times {ps : List Nat} (hClosed : ∀ i ∈ ps, ∀ j, r i j → j ∈ ps) {n i j : Nat} (hi : i ∈ ps)
    (h : Times r n i j) : j ∈ ps := by
  induction n generalizing i with
  | zero => exact h ▸ hi
  | succ n ih =>
    obtain ⟨k, hk, h⟩ := h
    exact ih (hClosed i hi k hk) h

theorem Computes.inside (h : Computes size step r) (hr : Forward size r) {ps : List Nat} (hps : ∀ i ∈ ps, i ≤ size) :
    ∀ j ∈ step ps, j ≤ size := by
  intro j hj
  obtain ⟨i, hi, hij⟩ := (h hps j).mp hj
  exact (hr hij (hps i hi)).2

@[simp] theorem mem_join {a b : List Nat} {p : Nat} : p ∈ join a b ↔ p ∈ a ∨ p ∈ b := by
  simp only [join, List.mem_append, List.mem_filter, List.contains_eq_mem]
  by_cases h : p ∈ a <;> simp [h]

theorem exactly_eq_iterate (n : Nat) (ps : List Nat) : exactly step n ps = step^[n] ps := by
  induction n generalizing ps with
  | zero => rfl
  | succ n ih =>
    rw [exactly, Function.iterate_succ_apply]
    split
    next hFixed => rw [hFixed, Function.iterate_fixed hFixed]
    next => exact ih _

theorem mem_exactly (h : Computes size step r) (hr : Forward size r) (n : Nat) :
    Computes size (exactly step n) (Times r n) := by
  intro ps hps j
  rw [exactly_eq_iterate]
  induction n generalizing ps with
  | zero => simp [Times]
  | succ n ih =>
    rw [Function.iterate_succ_apply, ih (h.inside hr hps)]
    constructor
    · rintro ⟨k, hk, hj⟩
      obtain ⟨i, hi, hik⟩ := (h hps k).mp hk
      exact ⟨i, hi, k, hik, hj⟩
    · rintro ⟨i, hi, k, hik, hj⟩
      exact ⟨k, (h hps k).mpr ⟨i, hi, hik⟩, hj⟩

section Searching

variable {frontier seen : List Nat}

/-- What a step finds from a frontier beyond what was seen. -/
def fresh (step : List Nat → List Nat) (frontier seen : List Nat) : List Nat :=
  (step frontier).filter fun p => !seen.contains p

theorem mem_fresh {p : Nat} : p ∈ fresh step frontier seen ↔ p ∈ step frontier ∧ p ∉ seen := by
  simp [fresh]

theorem mem_join_fresh {p : Nat} : p ∈ join seen (fresh step frontier seen) ↔ p ∈ seen ∨ p ∈ step frontier := by
  rw [mem_join, mem_fresh]
  by_cases h : p ∈ seen <;> simp [h]

theorem mem_seen_of_fresh_nil (h : (fresh step frontier seen).isEmpty = true) {p : Nat} (hp : p ∈ step frontier) :
    p ∈ seen := by
  by_contra hSeen
  have hFresh := mem_fresh.mpr ⟨hp, hSeen⟩
  rw [List.isEmpty_iff.mp h] at hFresh
  cases hFresh

theorem upTo_succ (n : Nat) (ps : List Nat) :
    upTo step (n + 1) ps = if (fresh step ps ps).isEmpty then ps else upTo step n (join ps (fresh step ps ps)) := rfl

theorem mem_upTo (h : Computes size step r) (hr : Forward size r) (n : Nat) :
    Computes size (upTo step n) fun i j => ∃ k ≤ n, Times r k i j := by
  intro ps hps j
  induction n generalizing ps with
  | zero => simp [upTo, Times]
  | succ n ih =>
    rw [upTo_succ]
    split
    next hNone =>
      have hClosed : ∀ i ∈ ps, ∀ j, r i j → j ∈ ps :=
        fun i hi j hij => mem_seen_of_fresh_nil hNone ((h hps j).mpr ⟨i, hi, hij⟩)
      constructor
      · exact fun hj => ⟨j, hj, 0, Nat.zero_le _, rfl⟩
      · rintro ⟨i, hi, k, -, hk⟩
        exact mem_of_times hClosed hi hk
    next =>
      have hInside : ∀ i ∈ join ps (fresh step ps ps), i ≤ size := by
        intro i hi
        rcases mem_join_fresh.mp hi with hi | hi
        · exact hps i hi
        · exact h.inside hr hps i hi
      rw [ih hInside]
      simp only [mem_join_fresh, h hps]
      constructor
      · rintro ⟨i, hi | ⟨first, hFirst, hStep⟩, k, hk, hj⟩
        · exact ⟨i, hi, k, Nat.le_succ_of_le hk, hj⟩
        · exact ⟨first, hFirst, k + 1, Nat.succ_le_succ hk, i, hStep, hj⟩
      · rintro ⟨i, hi, k, hk, hj⟩
        cases k with
        | zero => exact ⟨i, .inl hi, 0, Nat.zero_le _, hj⟩
        | succ k =>
          obtain ⟨next, hStep, hj⟩ := hj
          exact ⟨next, .inr ⟨i, hi, hStep⟩, k, Nat.le_of_succ_le_succ hk, hj⟩

/-- The positions of a text of the given size that are not seen yet. -/
def unseen (size : Nat) (seen : List Nat) : Finset Nat := Finset.range (size + 1) \ seen.toFinset

theorem mem_unseen {p : Nat} : p ∈ unseen size seen ↔ p ≤ size ∧ p ∉ seen := by
  simp [unseen]

/-- How far a search has come. It has seen its frontier, nothing out of the text, and the end of every step from behind the
frontier. -/
structure Searched (size : Nat) (r : Nat → Nat → Prop) (frontier seen : List Nat) : Prop where
  front : ∀ i ∈ frontier, i ∈ seen
  inside : ∀ i ∈ seen, i ≤ size
  behind : ∀ i ∈ seen, i ∉ frontier → ∀ j, r i j → j ∈ seen

namespace Searched

theorem mem_step (hs : Searched size r frontier seen) (h : Computes size step r) (j : Nat) :
    j ∈ step frontier ↔ ∃ i ∈ frontier, r i j :=
  h (fun i hi => hs.inside i (hs.front i hi)) j

/-- The next frontier is what is fresh. -/
theorem next (hs : Searched size r frontier seen) (h : Computes size step r) (hr : Forward size r) :
    Searched size r (fresh step frontier seen) (join seen (fresh step frontier seen)) where
  front i hi := mem_join.mpr (.inr hi)
  inside i hi := by
    rcases mem_join_fresh.mp hi with hi | hi
    · exact hs.inside i hi
    · obtain ⟨p, hp, hpi⟩ := (hs.mem_step h i).mp hi
      exact (hr hpi (hs.inside p (hs.front p hp))).2
  behind i hi hOld j hij := by
    have hi : i ∈ seen := (mem_join.mp hi).resolve_right hOld
    by_cases hFront : i ∈ frontier
    · exact mem_join_fresh.mpr (.inr ((hs.mem_step h j).mpr ⟨i, hFront, hij⟩))
    · exact mem_join_fresh.mpr (.inl (hs.behind i hi hFront j hij))

/-- If nothing is fresh, then no step leaves what was seen. -/
theorem closed (hs : Searched size r frontier seen) (h : Computes size step r)
    (hNone : (fresh step frontier seen).isEmpty = true) : ∀ i ∈ seen, ∀ j, r i j → j ∈ seen := by
  intro i hi j hij
  by_cases hFront : i ∈ frontier
  · exact mem_seen_of_fresh_nil hNone ((hs.mem_step h j).mpr ⟨i, hFront, hij⟩)
  · exact hs.behind i hi hFront j hij

/-- Otherwise there is less to be seen. -/
theorem unseen_lt (hs : Searched size r frontier seen) (h : Computes size step r) (hr : Forward size r)
    (hSome : ¬(fresh step frontier seen).isEmpty = true) :
    (unseen size (join seen (fresh step frontier seen))).card < (unseen size seen).card := by
  obtain ⟨p, hp⟩ := List.exists_mem_of_ne_nil _ fun hNil => hSome (List.isEmpty_iff.mpr hNil)
  have hInside : p ≤ size := (hs.next h hr).inside p (mem_join.mpr (.inr hp))
  apply Finset.card_lt_card
  refine Finset.ssubset_iff_subset_ne.mpr ⟨fun q hq => ?_, fun hEq => ?_⟩
  · rw [mem_unseen] at hq ⊢
    exact ⟨hq.1, fun h => hq.2 (mem_join.mpr (.inl h))⟩
  · have hMem : p ∈ unseen size (join seen (fresh step frontier seen)) :=
      hEq ▸ mem_unseen.mpr ⟨hInside, (mem_fresh.mp hp).2⟩
    exact (mem_unseen.mp hMem).2 (mem_join.mpr (.inr hp))

end Searched

theorem closure_succ (fuel : Nat) :
    closure step (fuel + 1) frontier seen = if (fresh step frontier seen).isEmpty then seen
      else closure step fuel (fresh step frontier seen) (join seen (fresh step frontier seen)) := rfl

/-- The search ends, since its fuel is enough to see every position of the text. -/
theorem mem_closure (h : Computes size step r) (hr : Forward size r) {fuel : Nat}
    (hs : Searched size r frontier seen) (hFuel : (unseen size seen).card ≤ fuel) (j : Nat) :
    j ∈ closure step fuel frontier seen ↔ ∃ i ∈ seen, ∃ k, Times r k i j := by
  induction fuel generalizing frontier seen with
  | zero =>
    refine ⟨fun hj => ⟨j, hj, 0, rfl⟩, fun ⟨i, hi, k, hk⟩ => ?_⟩
    have hInside : j ≤ size := (hr.times k hk (hs.inside i hi)).2
    by_contra hj
    have hMem : j ∈ unseen size seen := mem_unseen.mpr ⟨hInside, hj⟩
    rw [Finset.card_eq_zero.mp (Nat.le_zero.mp hFuel)] at hMem
    exact Finset.notMem_empty j hMem
  | succ fuel ih =>
    rw [closure_succ]
    split
    next hNone =>
      constructor
      · exact fun hj => ⟨j, hj, 0, rfl⟩
      · rintro ⟨i, hi, k, hk⟩
        exact mem_of_times (hs.closed h hNone) hi hk
    next hSome =>
      rw [ih (hs.next h hr) (Nat.le_of_lt_succ ((hs.unseen_lt h hr hSome).trans_le hFuel))]
      simp only [mem_join_fresh, hs.mem_step h]
      constructor
      · rintro ⟨i, hi | ⟨p, hp, hpi⟩, k, hk⟩
        · exact ⟨i, hi, k, hk⟩
        · exact ⟨p, hs.front p hp, k + 1, i, hpi, hk⟩
      · rintro ⟨i, hi, hk⟩
        exact ⟨i, .inl hi, hk⟩

end Searching

theorem Times.add {m n i j k : Nat} (h : Times r m i j) (h' : Times r n j k) : Times r (m + n) i k := by
  induction m generalizing i with
  | zero =>
    rw [Nat.zero_add]
    exact h ▸ h'
  | succ m ih =>
    obtain ⟨p, hp, h⟩ := h
    rw [Nat.succ_add]
    exact ⟨p, hp, ih h⟩

theorem Times.split {m n i k : Nat} (h : Times r (m + n) i k) : ∃ j, Times r m i j ∧ Times r n j k := by
  induction m generalizing i with
  | zero =>
    rw [Nat.zero_add] at h
    exact ⟨i, rfl, h⟩
  | succ m ih =>
    rw [Nat.succ_add] at h
    obtain ⟨p, hp, h⟩ := h
    obtain ⟨j, hj, h⟩ := ih h
    exact ⟨j, ⟨p, hp, hj⟩, h⟩

theorem mem_repetition (h : Computes size step r) (hr : Forward size r) (least : Nat) (most : Option Nat) :
    Computes size (repetition size least most step) fun i j =>
      ∃ n, least ≤ n ∧ (∀ m ∈ most, n ≤ max least m) ∧ Times r n i j := by
  intro ps hps j
  have hStart := mem_exactly h hr least hps
  have hInside := (mem_exactly h hr least).inside (hr.times least) hps
  unfold repetition
  cases most with
  | none =>
    have hFuel : (unseen size (exactly step least ps)).card ≤ size + 1 := by
      simpa [unseen] using Finset.card_le_card (Finset.sdiff_subset (s := Finset.range (size + 1))
        (t := (exactly step least ps).toFinset))
    dsimp only
    have hSearched : Searched size r (exactly step least ps) (exactly step least ps) :=
      ⟨fun _ hi => hi, hInside, fun _ hi hNot => absurd hi hNot⟩
    rw [mem_closure h hr hSearched hFuel]
    constructor
    · rintro ⟨p, hp, k, hk⟩
      obtain ⟨i, hi, hip⟩ := (hStart p).mp hp
      exact ⟨i, hi, least + k, Nat.le_add_right _ _, by simp, hip.add hk⟩
    · rintro ⟨i, hi, n, hn, -, hij⟩
      obtain ⟨k, rfl⟩ := Nat.exists_eq_add_of_le hn
      obtain ⟨p, hip, hpj⟩ := hij.split
      exact ⟨p, (hStart p).mpr ⟨i, hi, hip⟩, k, hpj⟩
  | some most =>
    dsimp only
    rw [mem_upTo h hr (most - least) hInside]
    constructor
    · rintro ⟨p, hp, k, hk, hpj⟩
      obtain ⟨i, hi, hip⟩ := (hStart p).mp hp
      refine ⟨i, hi, least + k, Nat.le_add_right _ _, ?_, hip.add hpj⟩
      rintro m ⟨⟩
      omega
    · rintro ⟨i, hi, n, hn, hMost, hij⟩
      obtain ⟨k, rfl⟩ := Nat.exists_eq_add_of_le hn
      obtain ⟨p, hip, hpj⟩ := hij.split
      have hk := hMost most rfl
      exact ⟨p, (hStart p).mpr ⟨i, hi, hip⟩, k, by omega, hpj⟩

theorem Forward.repetition (h : Forward size r) (least : Nat) (most : Option Nat) :
    Forward size fun i j => ∃ n, least ≤ n ∧ (∀ m ∈ most, n ≤ max least m) ∧ Times r n i j :=
  fun _ _ ⟨n, _, _, hij⟩ hi => h.times n hij hi

end Steps

/-! ## The ends of matches -/

section Ends

variable (text : Subject)

mutual

theorem Matches.forward : ∀ p : Pattern, Forward text.size (Matches text p)
  | .empty => by
    rintro i j rfl hi
    exact ⟨le_rfl, hi⟩
  | .chars set levels => by
    rintro i j ⟨⟨c, hc, -⟩, rfl⟩ -
    exact ⟨Nat.le_succ i, (Array.getElem?_eq_some_iff.mp hc).1⟩
  | .look assertion => by
    rintro i j ⟨-, rfl⟩ hi
    exact ⟨le_rfl, hi⟩
  | .concat parts => MatchesInTurn.forward parts
  | .alternate branches => MatchesOne.forward branches
  | .repeated body least most => (Matches.forward body).repetition least most
  | .group body => Matches.forward body

theorem MatchesInTurn.forward : ∀ parts : List Pattern, Forward text.size (MatchesInTurn text parts)
  | [] => by
    rintro i j rfl hi
    exact ⟨le_rfl, hi⟩
  | part :: rest => by
    rintro i j ⟨k, hk, hj⟩ hi
    obtain ⟨hik, hk⟩ := Matches.forward part hk hi
    obtain ⟨hkj, hj⟩ := MatchesInTurn.forward rest hj hk
    exact ⟨hik.trans hkj, hj⟩

theorem MatchesOne.forward : ∀ branches : List Pattern, Forward text.size (MatchesOne text branches)
  | [] => fun _ _ h => h.elim
  | branch :: rest => fun _ _ h => h.elim (Matches.forward branch ·) (MatchesOne.forward rest ·)

end

mutual

theorem mem_ends : ∀ p : Pattern, Computes text.size (ends text p) (Matches text p)
  | .empty => fun ps _ j => by simp [ends, Matches]
  | .chars set levels => fun ps _ j => by
    simp only [ends, Matches, List.mem_filterMap]
    refine exists_congr fun i => and_congr_right fun _ => ?_
    cases text[i]? with
    | none => simp
    | some c => cases hc : set.contains c <;> simp [hc]
  | .look assertion => fun ps _ j => by
    simp only [ends, Matches, List.mem_filter]
    constructor
    · exact fun ⟨hj, hHolds⟩ => ⟨j, hj, hHolds, rfl⟩
    · rintro ⟨i, hi, hHolds, rfl⟩
      exact ⟨hi, hHolds⟩
  | .concat parts => mem_endsInTurn parts
  | .alternate branches => mem_endsOfAny branches
  | .repeated body least most => mem_repetition (mem_ends body) (Matches.forward text body) least most
  | .group body => mem_ends body

theorem mem_endsInTurn : ∀ parts : List Pattern, Computes text.size (endsInTurn text parts) (MatchesInTurn text parts)
  | [] => fun ps _ j => by simp [endsInTurn, MatchesInTurn]
  | part :: rest => fun ps hps j => by
    have hPart := mem_ends part hps
    rw [endsInTurn, mem_endsInTurn rest ((mem_ends part).inside (Matches.forward text part) hps)]
    simp only [MatchesInTurn]
    constructor
    · rintro ⟨k, hk, hj⟩
      obtain ⟨i, hi, hik⟩ := (hPart k).mp hk
      exact ⟨i, hi, k, hik, hj⟩
    · rintro ⟨i, hi, k, hik, hj⟩
      exact ⟨k, (hPart k).mpr ⟨i, hi, hik⟩, hj⟩

theorem mem_endsOfAny : ∀ branches : List Pattern, Computes text.size (endsOfAny text branches) (MatchesOne text branches)
  | [] => fun ps _ j => by simp [endsOfAny, MatchesOne]
  | branch :: rest => fun ps hps j => by
    rw [endsOfAny, mem_join, mem_ends branch hps, mem_endsOfAny rest hps]
    simp only [MatchesOne]
    constructor
    · rintro (⟨i, hi, h⟩ | ⟨i, hi, h⟩)
      · exact ⟨i, hi, .inl h⟩
      · exact ⟨i, hi, .inr h⟩
    · rintro ⟨i, hi, h | h⟩
      · exact .inl ⟨i, hi, h⟩
      · exact .inr ⟨i, hi, h⟩

end

end Ends

/-- The characters of a subject by their positions. -/
def characters (subject : String) : Subject := subject.toList.toArray

/-- A search finds a match if and only if some part of the subject is one. -/
theorem occursIn_iff {p : Pattern} {subject : String} :
    occursIn p subject = true ↔
      ∃ i j, i ≤ j ∧ j ≤ subject.toList.length ∧ Matches (characters subject) p i j := by
  have hSize : (characters subject).size = subject.toList.length := by simp [characters]
  have hRange : ∀ i ∈ List.range ((characters subject).size + 1), i ≤ (characters subject).size :=
    fun i hi => Nat.lt_succ_iff.mp (List.mem_range.mp hi)
  have hMem := mem_ends (characters subject) p hRange
  have hOccurs : occursIn p subject = true ↔
      ends (characters subject) p (List.range ((characters subject).size + 1)) ≠ [] := by
    simp [occursIn, characters]
  rw [hOccurs, ne_eq, List.eq_nil_iff_forall_not_mem, not_forall_not]
  constructor
  · rintro ⟨j, hj⟩
    obtain ⟨i, hi, hij⟩ := (hMem j).mp hj
    obtain ⟨hLe, hEnd⟩ := Matches.forward _ p hij (hRange i hi)
    exact ⟨i, j, hLe, hSize ▸ hEnd, hij⟩
  · rintro ⟨i, j, hLe, hEnd, hij⟩
    have hi : i < (characters subject).size + 1 := by omega
    exact ⟨j, (hMem j).mpr ⟨i, List.mem_range.mpr hi, hij⟩⟩

end TemplateQuery.Pattern
