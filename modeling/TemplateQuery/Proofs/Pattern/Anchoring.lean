import Mathlib
import TemplateQuery.Proofs.Pattern.Items
import TemplateQuery.Query.Standard

/-!
# Patterns that cover a whole text

A text is anchored by writing it into a group between the two ends. The reader does with a text in a group what it does
with the text alone, so an anchored pattern reads as its group between two assertions. There are two exceptions. A comment
at the end of the text takes in the closing parenthesis, and nothing is left to close the group. A text that closes a group
which it does not open is no pattern alone, but its parenthesis may close the group around it.
-/
namespace TemplateQuery.Pattern

open Query (anchored)

/-! ## What items leave -/

section Items

variable {f : Flags} {c : Char} {s : List Char} {item : Item} {r : List Char}

theorem readItem_boundary (rest : List Char) :
    readItem f '\\' ('b' :: rest) = (readBoundary f rest).map fun read => (.pattern (.look read.1), read.2) := by
  show (readEscape f ('b' :: rest)).bind _ = _
  rw [readEscape_boundary]
  cases readBoundary f rest <;> rfl

theorem readItem_of_some (h : readItem f c s = some (item, r)) :
    Stable 1 s (readItem f c s) (readItem f c (s ++ [')'])) (readItem f c (s ++ [')', '$'])) := by
  apply readItem_stable
  rintro rest rfl rfl hOpen
  rw [readItem_boundary, hOpen.readBoundary_eq_none] at h
  cases h

theorem readItem_suffix (h : readItem f c s = some (item, r)) : r <:+ s :=
  (readItem_of_some h).suffix h

/-- With a closing text behind it, an item is the same. Only a comment at its end takes in the closing text. -/
theorem readItem_closed (h : readItem f c s = some (item, r)) :
    (∀ u, Closes u → readItem f c (s ++ u) = some (item, r ++ u)) ∨
      (r = [] ∧ ∀ u, Closes u → readItem f c (s ++ u) = some (item, [])) := by
  have hStable := readItem_of_some h
  rw [h] at hStable
  rcases hStable.closed with ⟨h₁, h₂⟩ | ⟨hr, h₁, h₂⟩
  · exact .inl (forall_closes h₁ h₂)
  · exact .inr ⟨hr, forall_closes h₁ h₂⟩

/-- An item that is read with a closing text behind it only passes the closing parenthesis, or it is a word boundary with a
brace left open. -/
theorem readItem_beyond {u : List Char} (hu : Closes u) (h : readItem f c s = none)
    (hClosed : readItem f c (s ++ u) = some (item, r)) :
    r <:+ u.tail ∨ ∃ p rest, item = .pattern p ∧ r = '\x7b' :: rest ∧ f.skip rest = u := by
  by_cases hOpen : ∃ rest, c = '\\' ∧ s = 'b' :: rest ∧ BraceLeftOpen f rest
  · obtain ⟨rest, rfl, rfl, hOpen⟩ := hOpen
    rw [List.cons_append, readItem_boundary, Option.map_eq_some_iff] at hClosed
    obtain ⟨⟨a, r'⟩, hBoundary, hItem⟩ := hClosed
    cases hItem
    obtain ⟨rest', hr, hSkip⟩ := hOpen.readBoundary_closed hu hBoundary
    exact .inr ⟨_, rest', rfl, hr, hSkip⟩
  · have hStable := readItem_stable f c (s := s) fun rest hc hs hBrace => hOpen ⟨rest, hc, hs, hBrace⟩
    rw [h] at hStable
    left
    rcases hu with rfl | rfl
    · exact hStable.beyond.1 item r hClosed
    · exact hStable.beyond.2 item r hClosed

theorem readFlagGroup_ne_close (h : readFlagGroup f s = some (item, r)) : item ≠ .close := by
  rintro rfl
  obtain ⟨⟨items, rest⟩, -, hItem⟩ := Option.bind_eq_some_iff.mp h
  dsimp only at hItem
  split at hItem
  · cases hItem
  · split at hItem <;> cases hItem

theorem readOpening_ne_close (h : readOpening f s = some (item, r)) : item ≠ .close := by
  rintro rfl
  rw [readOpening, Option.bind_some] at h
  dsimp only at h
  split at h
  · simp [Option.bind_eq_some_iff] at h
  split at h
  · cases h
  split at h
  · cases h
  split at h
  · simp [Option.bind_eq_some_iff] at h
  split at h
  · exact readFlagGroup_ne_close h rfl
  · cases h

theorem readItem_ne_close (hc : c ≠ ')') (h : readItem f c s = some (item, r)) : item ≠ .close := by
  rintro rfl
  unfold readItem at h
  split at h
  · exact readOpening_ne_close h rfl
  · exact hc rfl
  all_goals simp [Option.bind_eq_some_iff] at h

end Items

namespace State

variable {s s' e : State}

theorem apply_rest {r : List Char} {item : Item} (h : s.apply r item = some s') : s'.rest = r := by
  cases item with
  | close =>
    simp only [apply, State.close] at h
    split at h
    · cases h
    · cases h; rfl
  | repeated least most =>
    simp only [apply, repeatLast] at h
    split at h
    · cases h; rfl
    · cases h
  | enterNamed name =>
    simp only [apply] at h
    split at h
    · cases h
    · cases h; rfl
  | pattern p => cases h; rfl
  | branch => cases h; rfl
  | setFlags flags => cases h; rfl
  | enter flags => cases h; rfl

theorem apply_groups {r : List Char} {item : Item} (h : s.apply r item = some s') (hItem : item ≠ .close) :
    s.groups <:+ s'.groups := by
  cases item with
  | close => exact absurd rfl hItem
  | repeated least most =>
    simp only [apply, repeatLast] at h
    split at h
    · cases h; exact List.suffix_refl _
    · cases h
  | enterNamed name =>
    simp only [apply] at h
    split at h
    · cases h
    · cases h; exact List.suffix_cons _ _
  | pattern p => cases h; exact List.suffix_refl _
  | branch => cases h; exact List.suffix_refl _
  | setFlags flags => cases h; exact List.suffix_refl _
  | enter flags => cases h; exact List.suffix_cons _ _

/-! ## Steps of the reader -/

/-- The state before a text. -/
def start (text : List Char) : State := ⟨text, .initial, .start, [], []⟩

/-- One step of the reader. -/
def Next (s s' : State) : Prop := ∃ c rest, s.flags.skip s.rest = c :: rest ∧ s.step c rest = some s'

abbrev Reaches : State → State → Prop := Relation.ReflTransGen Next

/-- The reader is at the end of a pattern. -/
structure Ends (s : State) (p : Pattern) : Prop where
  rest : s.flags.skip s.rest = []
  groups : s.groups = []
  finish : s.level.finish = p

/-- The rest of a text is the rest of a pattern. -/
def Parses (s : State) (p : Pattern) : Prop := ∃ e, s.Reaches e ∧ e.Ends p

theorem Next.unique {a b : State} (ha : s.Next a) (hb : s.Next b) : a = b := by
  obtain ⟨c, rest, hSkip, hStep⟩ := ha
  obtain ⟨c', rest', hSkip', hStep'⟩ := hb
  cases hSkip.symm.trans hSkip'
  exact Option.some.inj (hStep.symm.trans hStep')

theorem Next.length_lt (h : s.Next s') : s'.rest.length < s.rest.length := by
  obtain ⟨c, rest, hSkip, hStep⟩ := h
  rw [step_eq] at hStep
  obtain ⟨⟨item, r⟩, hItem, hApply⟩ := Option.bind_eq_some_iff.mp hStep
  have hRest := (readItem_suffix hItem).length_le
  have hSuffix := (s.flags.skip_suffix s.rest).length_le
  rw [hSkip, List.length_cons] at hSuffix
  rw [apply_rest hApply]
  exact Nat.lt_of_succ_le ((Nat.succ_le_succ hRest).trans hSuffix)

theorem not_next (h : s.flags.skip s.rest = []) : ¬s.Next s' := by
  rintro ⟨c, rest, hSkip, -⟩
  rw [h] at hSkip
  cases hSkip

theorem parses_iff {p : Pattern} : s.Parses p ↔ s.Ends p ∨ ∃ s', s.Next s' ∧ s'.Parses p := by
  constructor
  · rintro ⟨e, hReach, hEnd⟩
    rcases hReach.cases_head with rfl | ⟨s', hNext, hReach⟩
    · exact .inl hEnd
    · exact .inr ⟨s', hNext, e, hReach, hEnd⟩
  · rintro (hEnd | ⟨s', hNext, e, hReach, hEnd⟩)
    · exact ⟨s, .refl, hEnd⟩
    · exact ⟨e, .head hNext hReach, hEnd⟩

theorem Next.parses_iff {p : Pattern} (h : s.Next s') : s.Parses p ↔ s'.Parses p := by
  rw [State.parses_iff]
  constructor
  · rintro (hEnd | ⟨s'', hNext, hParses⟩)
    · exact absurd h (not_next hEnd.rest)
    · exact h.unique hNext ▸ hParses
  · exact fun hParses => .inr ⟨s', h, hParses⟩

theorem Reaches.parses_iff {p : Pattern} (h : s.Reaches e) : s.Parses p ↔ e.Parses p := by
  induction h with
  | refl => exact Iff.rfl
  | tail _ hNext ih => exact ih.trans hNext.parses_iff

theorem parses_iff_ends {p : Pattern} (h : s.flags.skip s.rest = []) : s.Parses p ↔ s.Ends p := by
  rw [parses_iff]
  exact or_iff_left fun ⟨_, hNext, _⟩ => not_next h hNext

theorem run_eq_some_iff {n : Nat} (hn : s.rest.length < n) {p : Pattern} : State.run n s = some p ↔ s.Parses p := by
  induction n generalizing s with
  | zero => cases hn
  | succ n ih =>
    rw [State.run]
    cases hSkip : s.flags.skip s.rest with
    | nil =>
      rw [parses_iff_ends hSkip]
      dsimp only
      split
      next hGroups =>
        constructor
        · exact fun h => ⟨hSkip, List.isEmpty_iff.mp hGroups, Option.some.inj h⟩
        · exact fun h => congrArg some h.finish
      next hGroups => exact ⟨fun h => (by cases h), fun h => absurd (List.isEmpty_iff.mpr h.groups) hGroups⟩
    | cons c rest =>
      dsimp only
      cases hStep : s.step c rest with
      | none =>
        refine ⟨fun h => (by cases h), fun h => ?_⟩
        rcases parses_iff.mp h with hEnd | ⟨s', ⟨c', rest', hSkip', hStep'⟩, -⟩
        · rw [hEnd.rest] at hSkip
          cases hSkip
        · cases hSkip.symm.trans hSkip'
          rw [hStep] at hStep'
          cases hStep'
      | some s' =>
        have hNext : s.Next s' := ⟨c, rest, hSkip, hStep⟩
        have hShorter := hNext.length_lt
        rw [hNext.parses_iff]
        exact ih (by omega)

/-! ## A text in a group -/

/-- The state with more groups around it and more text behind it. -/
def within (outer : List OpenGroup) (u : List Char) (s : State) : State :=
  { s with rest := s.rest ++ u, groups := s.groups ++ outer }

theorem apply_within {outer : List OpenGroup} {u v r : List Char} {item : Item}
    (h : item = .close → s.groups ≠ []) :
    (s.within outer v).apply (r ++ u) item = (s.apply r item).map (within outer u) := by
  cases item with
  | close =>
    cases hGroups : s.groups with
    | nil => exact absurd hGroups (h rfl)
    | cons g groups => simp [apply, State.close, within, hGroups]
  | repeated least most =>
    simp only [apply, repeatLast, within]
    split <;> rfl
  | enterNamed name =>
    show (if s.names.contains name then none else _) = (if s.names.contains name then none else _).map _
    split <;> rfl
  | pattern p => rfl
  | branch => rfl
  | setFlags flags => rfl
  | enter flags => rfl

/-- A step is made with groups around and a closing text behind. If it reads to the end of the text, there may be a comment
that takes in the closing text. -/
theorem Next.within (h : s.Next s') :
    (∀ outer u, Closes u → (s.within outer u).Next (s'.within outer u)) ∨
      (s'.rest = [] ∧ ∀ outer u, Closes u → (s.within outer u).Next (s'.within outer [])) := by
  obtain ⟨c, rest, hSkip, hStep⟩ := h
  rw [step_eq] at hStep
  obtain ⟨⟨item, r⟩, hItem, hApply⟩ := Option.bind_eq_some_iff.mp hStep
  have hClose : item = .close → s.groups ≠ [] := by
    rintro rfl hGroups
    simp [apply, State.close, hGroups] at hApply
  have hSkipClosed {u : List Char} (hu : Closes u) (outer : List OpenGroup) :
      (s.within outer u).flags.skip (s.within outer u).rest = c :: (rest ++ u) := by
    rcases s.flags.skip_closed s.rest with ⟨r, hr, h⟩ | ⟨hr, -⟩
    · cases hSkip.symm.trans hr
      exact h u hu
    · cases hSkip.symm.trans hr
  have hNext {u v : List Char} (hu : Closes u) (outer : List OpenGroup)
      (h : readItem s.flags c (rest ++ u) = some (item, r ++ v)) : (s.within outer u).Next (s'.within outer v) := by
    refine ⟨c, rest ++ u, hSkipClosed hu outer, ?_⟩
    have hItem : readItem (s.within outer u).flags c (rest ++ u) = some (item, r ++ v) := h
    rw [step_eq, hItem, Option.bind_some]
    show (s.within outer u).apply (r ++ v) item = some (s'.within outer v)
    have hApply : s.apply r item = some s' := hApply
    rw [apply_within hClose, hApply]
    rfl
  rcases readItem_closed hItem with h | ⟨rfl, h⟩
  · exact .inl fun outer u hu => hNext hu outer (h u hu)
  · exact .inr ⟨apply_rest hApply, fun outer u hu => hNext hu outer (h u hu)⟩

/-- A pattern is read in groups up to its end, and the closing text is still there, unless there is a comment. -/
theorem Reaches.within {p : Pattern} (h : s.Reaches e) (hEnd : e.Ends p) :
    (∀ outer u, Closes u → (s.within outer u).Reaches (e.within outer u) ∧ e.flags.skip (e.rest ++ u) = u) ∨
      ∀ outer u, Closes u → ∃ v, (s.within outer u).Reaches (e.within outer v) ∧ e.flags.skip (e.rest ++ v) = [] := by
  induction h using Relation.ReflTransGen.head_induction_on with
  | refl =>
    rcases e.flags.skip_closed e.rest with ⟨r, hr, h⟩ | ⟨-, h⟩
    · cases hr.symm.trans hEnd.rest
      exact .inl fun outer u hu => ⟨.refl, h u hu⟩
    · exact .inr fun outer u hu => ⟨u, .refl, h u hu⟩
  | head hNext hReach ih =>
    rename_i a b
    rcases hNext.within with hWithin | ⟨hRest, hWithin⟩
    · rcases ih with ih | ih
      · exact .inl fun outer u hu => ⟨.head (hWithin outer u hu) (ih outer u hu).1, (ih outer u hu).2⟩
      · right
        intro outer u hu
        obtain ⟨v, hReach, hSkip⟩ := ih outer u hu
        exact ⟨v, .head (hWithin outer u hu) hReach, hSkip⟩
    · have hLast : b = e := by
        rcases hReach.cases_head with hEq | ⟨b', hNext', -⟩
        · exact hEq
        · exact absurd hNext' (not_next (by rw [hRest, Flags.skip_nil]))
      subst hLast
      refine .inr fun outer u hu => ⟨[], .single (hWithin outer u hu), ?_⟩
      rw [hRest]
      exact Flags.skip_nil _

/-! ## What closing texts cannot close -/

theorem not_parses_of_groups {p : Pattern} (hGroups : s.groups ≠ []) (hRest : s.rest <:+ ['$']) : ¬s.Parses p := by
  intro h
  rcases parses_iff.mp h with hEnd | ⟨s', ⟨c, rest, hSkip, hStep⟩, h⟩
  · exact hGroups hEnd.groups
  · have hLast : c :: rest <:+ ['$'] := hSkip ▸ (s.flags.skip_suffix s.rest).trans hRest
    rcases List.suffix_cons_iff.mp hLast with hEq | hNil
    · cases hEq
      have hPush : s.step '$' [] = some (s.push (.look (endAssertion s.flags)) []) := rfl
      cases hPush.symm.trans hStep
      exact hGroups ((parses_iff_ends (s.flags.skip_nil)).mp h).groups
    · cases List.suffix_nil.mp hNil

theorem not_parses_of_brace {p : Pattern} {rest u : List Char} (hRest : s.rest = '\x7b' :: rest) (hu : Closes u)
    (hSkip : s.flags.skip rest = u) : ¬s.Parses p := by
  have hBrace : s.flags.skip s.rest = '\x7b' :: rest := by
    rw [hRest, Flags.skip]
    split <;> rfl
  intro h
  rcases parses_iff.mp h with hEnd | ⟨s', ⟨c, rest', hSkip', hStep⟩, -⟩
  · rw [hEnd.rest] at hBrace
    cases hBrace
  · cases hBrace.symm.trans hSkip'
    have hNone : s.step '\x7b' rest = none := by
      show (readBounds s.flags rest).bind _ = none
      rw [readBounds_closed s.flags hu hSkip]
      rfl
    rw [hNone] at hStep
    cases hStep

/-- The rest of a text comes to a closing parenthesis where no group is open. -/
def ClosesUnopened (s : State) : Prop := ∃ e rest, s.Reaches e ∧ e.groups = [] ∧ e.flags.skip e.rest = ')' :: rest

theorem Next.closesUnopened (h : s.Next s') (hCloses : s'.ClosesUnopened) : s.ClosesUnopened := by
  obtain ⟨e, rest, hReach, hGroups, hSkip⟩ := hCloses
  exact ⟨e, rest, .head h hReach, hGroups, hSkip⟩

section Outer

variable {outer : List OpenGroup} {u r rest : List Char} {t : State} {q : Pattern} {c : Char} {item : Item}

/-- The closing parenthesis closes a group of the text, and the groups around stay open. -/
theorem not_parses_of_inner_closed (hOuter : outer ≠ []) (hu : Closes u) (hInner : s.groups ≠ []) (hText : c :: rest = u)
    (hStep : (s.within outer u).step c rest = some t) : ¬t.Parses q := by
  obtain ⟨g, groups, hGroups⟩ := List.exists_cons_of_ne_nil hInner
  obtain ⟨rfl, hRest⟩ : c = ')' ∧ rest <:+ ['$'] := by
    rcases hu with rfl | rfl
    · exact ⟨(List.cons.inj hText).1, (List.cons.inj hText).2 ▸ List.nil_suffix⟩
    · exact ⟨(List.cons.inj hText).1, (List.cons.inj hText).2 ▸ List.suffix_refl _⟩
  have hClose : (s.within outer u).close rest = some t := hStep
  simp only [State.close, within, hGroups, List.cons_append, Option.some.injEq] at hClose
  subst hClose
  exact not_parses_of_groups (fun hNil => hOuter (List.append_eq_nil_iff.mp hNil).2) hRest

/-- An item that only is one with the closing text behind it leaves too little to close the groups around. -/
theorem not_parses_of_item_beyond (hOuter : outer ≠ []) (hu : Closes u) (hAlone : readItem s.flags c rest = none)
    (hItem : readItem s.flags c (rest ++ u) = some (item, r)) (hApply : (s.within outer u).apply r item = some t) :
    ¬t.Parses q := by
  rcases readItem_beyond hu hAlone hItem with hRest | ⟨p, rest', rfl, rfl, hSkip⟩
  · have hNotClose : item ≠ .close := by
      apply readItem_ne_close _ hItem
      rintro rfl
      cases hAlone
    have hOpen : t.groups ≠ [] := by
      intro hNil
      have hGroups : s.groups ++ outer = [] := List.suffix_nil.mp (hNil ▸ apply_groups hApply hNotClose)
      exact hOuter (List.append_eq_nil_iff.mp hGroups).2
    apply not_parses_of_groups hOpen
    rw [apply_rest hApply]
    rcases hu with rfl | rfl
    · exact hRest.trans List.nil_suffix
    · exact hRest
  · cases hApply
    exact not_parses_of_brace rfl hu hSkip

/-- An item that is one without the closing text is the same with it. -/
theorem next_of_item {item' : Item} {r' : List Char} (hOuter : outer ≠ []) (hu : Closes u)
    (hClose : item = .close → s.groups ≠ []) (hSkip : s.flags.skip s.rest = c :: rest)
    (hAlone : readItem s.flags c rest = some (item', r')) (hItem : readItem s.flags c (rest ++ u) = some (item, r))
    (hApply : (s.within outer u).apply r item = some t) (h : t.Parses q) : ∃ s', s.Next s' ∧ t = s'.within outer u := by
  have hNext {v : List Char} (hRead : some (item', r' ++ v) = some (item, r)) :
      ∃ s', s.Next s' ∧ s'.rest = r' ∧ t = s'.within outer v := by
    cases hRead
    rw [apply_within hClose] at hApply
    obtain ⟨s', hApplied, rfl⟩ := Option.map_eq_some_iff.mp hApply
    refine ⟨s', ⟨c, rest, hSkip, ?_⟩, apply_rest hApplied, rfl⟩
    rw [step_eq, hAlone]
    exact hApplied
  rcases readItem_closed hAlone with hRead | ⟨rfl, hRead⟩
  · obtain ⟨s', hNext, -, ht⟩ := hNext ((hRead u hu).symm.trans hItem)
    exact ⟨s', hNext, ht⟩
  · -- A comment has taken in the closing text, and the groups around stay open.
    obtain ⟨s', -, hRest, rfl⟩ := hNext ((hRead u hu).symm.trans hItem)
    refine absurd h (not_parses_of_groups (fun hNil => hOuter (List.append_eq_nil_iff.mp hNil).2) ?_)
    show s'.rest ++ [] <:+ ['$']
    rw [hRest]
    exact List.nil_suffix

/-- What one step with groups around and a closing text behind tells of the text. -/
theorem next_of_within (hOuter : outer ≠ []) (hu : Closes u) (hNext : (s.within outer u).Next t) (h : t.Parses q) :
    s.ClosesUnopened ∨ (∃ p, s.Ends p) ∨ ∃ s', s.Next s' ∧ t = s'.within outer u := by
  obtain ⟨c, rest', hSkip, hStep⟩ := hNext
  obtain ⟨r, hr, hSplit⟩ : ∃ r, s.flags.skip s.rest = r ∧ c :: rest' = r ++ u := by
    rcases s.flags.skip_closed s.rest with ⟨r, hr, hClosed⟩ | ⟨-, hClosed⟩
    · exact ⟨r, hr, hSkip.symm.trans (hClosed u hu)⟩
    · cases hSkip.symm.trans (hClosed u hu)
  rcases r with _ | ⟨d, rest⟩
  · by_cases hGroups : s.groups = []
    · exact .inr (.inl ⟨_, hr, hGroups, rfl⟩)
    · exact absurd h (not_parses_of_inner_closed hOuter hu hGroups hSplit hStep)
  · obtain ⟨rfl, rfl⟩ := List.cons.inj hSplit
    by_cases hUnopened : c = ')' ∧ s.groups = []
    · obtain ⟨rfl, hGroups⟩ := hUnopened
      exact .inl ⟨s, rest, .refl, hGroups, hr⟩
    rw [step_eq] at hStep
    obtain ⟨⟨item, r⟩, hItem, hApply⟩ := Option.bind_eq_some_iff.mp hStep
    have hClose : item = .close → s.groups ≠ [] := by
      rintro rfl hGroups
      by_cases hc : c = ')'
      · exact hUnopened ⟨hc, hGroups⟩
      · exact readItem_ne_close hc hItem rfl
    cases hAlone : readItem s.flags c rest with
    | none => exact absurd h (not_parses_of_item_beyond hOuter hu hAlone hItem hApply)
    | some read => exact .inr (.inr (next_of_item hOuter hu hClose hr hAlone hItem hApply h))

/-- If a text is a pattern with groups around it and a closing text behind, then it is one alone, or else it closes a group
that it does not open. -/
theorem parses_of_within (hOuter : outer ≠ []) (hu : Closes u) (h : (s.within outer u).Parses q) :
    s.ClosesUnopened ∨ ∃ p, s.Parses p := by
  obtain ⟨e, hReach, hEnd⟩ := h
  generalize hs : s.within outer u = t at hReach
  induction hReach using Relation.ReflTransGen.head_induction_on generalizing s with
  | refl =>
    subst hs
    exact absurd (List.append_eq_nil_iff.mp hEnd.groups).2 hOuter
  | head hNext hReach ih =>
    subst hs
    rcases next_of_within hOuter hu hNext ⟨e, hReach, hEnd⟩ with hCloses | ⟨p, hEnds⟩ | ⟨s', hNext', rfl⟩
    · exact .inl hCloses
    · exact .inr ⟨p, s, .refl, hEnds⟩
    · rcases ih rfl with hCloses | ⟨p, hParses⟩
      · exact .inl (hNext'.closesUnopened hCloses)
      · exact .inr ⟨p, hNext'.parses_iff.mpr hParses⟩

end Outer

end State

/-! ## Anchored texts -/

/-- The text is in the middle of a comment at its end: a closing parenthesis behind it does not close anything, and is no
fault. -/
def EndsInComment (text : String) : Prop := (ofText? (text ++ ")")).isSome = true

/-- The text comes to a closing parenthesis where no group is open. -/
def ClosesUnopened (text : String) : Prop := (State.start text.toList).ClosesUnopened

/-- The pattern between the ends of the text. -/
def betweenEnds (p : Pattern) : Pattern := .concat [.look .textStart, .group p, .look .textEnd]

section Anchored

variable {text : String} {p q : Pattern}

theorem ofText?_eq_some_iff : ofText? text = some p ↔ (State.start text.toList).Parses p ∧ depth p ≤ 250 := by
  have hRun (p : Pattern) : State.run (text.toList.length + 1) ⟨text.toList, .initial, .start, [], []⟩ = some p ↔
      (State.start text.toList).Parses p := State.run_eq_some_iff (Nat.lt_succ_self _)
  rw [← hRun]
  show (State.run (text.toList.length + 1) _).bind (fun p => if depth p ≤ 250 then some p else none) = some p ↔ _
  rw [Option.bind_eq_some_iff]
  constructor
  · rintro ⟨p', hParses, hDepth⟩
    split at hDepth
    next hLe =>
      cases hDepth
      exact ⟨hParses, hLe⟩
    next => cases hDepth
  · rintro ⟨hParses, hLe⟩
    exact ⟨p, hParses, if_pos hLe⟩

/-! ### What stands around a text -/

/-- The text in a group of its own. -/
def grouped (text : String) : String := "(?:" ++ text ++ ")"

/-- The group around a text, at the start of a pattern. -/
def outerGroup : OpenGroup := ⟨.start, .initial⟩

/-- The group around an anchored text, where the first assertion is read already. -/
def anchorGroup : OpenGroup := ⟨⟨[], [.pattern (.look .textStart)]⟩, .initial⟩

theorem parses_grouped_iff :
    (State.start (grouped text).toList).Parses q ↔
      ((State.start text.toList).within [outerGroup] [')']).Parses q := by
  have hText : (grouped text).toList = '(' :: '?' :: ':' :: (text.toList ++ [')']) := by
    simp [grouped]
  rw [hText]
  have hGroup : (State.start ('(' :: '?' :: ':' :: (text.toList ++ [')']))).Next
      ((State.start text.toList).within [outerGroup] [')']) :=
    ⟨'(', _, rfl, rfl⟩
  rw [hGroup.parses_iff]

theorem parses_anchored_iff :
    (State.start (anchored text).toList).Parses q ↔
      ((State.start text.toList).within [anchorGroup] [')', '$']).Parses q := by
  have hText : (anchored text).toList = '^' :: '(' :: '?' :: ':' :: (text.toList ++ [')', '$']) := by
    simp [anchored]
  rw [hText]
  have hStart : (State.start ('^' :: '(' :: '?' :: ':' :: (text.toList ++ [')', '$']))).Next
      ⟨'(' :: '?' :: ':' :: (text.toList ++ [')', '$']), .initial, ⟨[], [.pattern (.look .textStart)]⟩, [], []⟩ :=
    ⟨'^', _, rfl, rfl⟩
  have hGroup : (State.mk ('(' :: '?' :: ':' :: (text.toList ++ [')', '$'])) .initial ⟨[], [.pattern (.look .textStart)]⟩ []
      []).Next ((State.start text.toList).within [anchorGroup] [')', '$']) :=
    ⟨'(', _, rfl, rfl⟩
  rw [hStart.parses_iff, hGroup.parses_iff]

/-- At the end of a text in a group, the group is closed. -/
theorem parses_atGroupEnd {e : State} (hEnd : e.Ends p) (hSkip : e.flags.skip (e.rest ++ [')']) = [')']) :
    (e.within [outerGroup] [')']).Parses q ↔ q = .group p := by
  let closed : State := ⟨[], .initial, ⟨[], [.pattern (.group p)]⟩, [], e.names⟩
  have hClose : (e.within [outerGroup] [')']).Next closed := by
    refine ⟨')', [], hSkip, ?_⟩
    show (e.within [outerGroup] [')']).close [] = some closed
    simp only [State.close, State.within, hEnd.groups, List.nil_append, hEnd.finish]
    rfl
  have hFinish : closed.level.finish = .group p := rfl
  rw [hClose.parses_iff, State.parses_iff_ends rfl]
  exact ⟨fun h => (hFinish.symm.trans h.finish).symm, fun h => ⟨rfl, rfl, hFinish.trans h.symm⟩⟩

/-- At the end of an anchored text, the group is closed and the second assertion is read. -/
theorem parses_atAnchor {e : State} (hEnd : e.Ends p) (hSkip : e.flags.skip (e.rest ++ [')', '$']) = [')', '$']) :
    (e.within [anchorGroup] [')', '$']).Parses q ↔ q = betweenEnds p := by
  let closed : State := ⟨['$'], .initial, ⟨[], [.pattern (.group p), .pattern (.look .textStart)]⟩, [], e.names⟩
  let last : State :=
    ⟨[], .initial, ⟨[], [.pattern (.look .textEnd), .pattern (.group p), .pattern (.look .textStart)]⟩, [], e.names⟩
  have hClose : (e.within [anchorGroup] [')', '$']).Next closed := by
    refine ⟨')', ['$'], hSkip, ?_⟩
    show (e.within [anchorGroup] [')', '$']).close ['$'] = some closed
    simp only [State.close, State.within, hEnd.groups, List.nil_append, hEnd.finish]
    rfl
  have hLast : closed.Next last := ⟨'$', [], rfl, rfl⟩
  have hFinish : last.level.finish = betweenEnds p := rfl
  rw [hClose.parses_iff, hLast.parses_iff, State.parses_iff_ends rfl]
  exact ⟨fun h => (hFinish.symm.trans h.finish).symm, fun h => ⟨rfl, rfl, hFinish.trans h.symm⟩⟩

/-! ### Patterns in a group -/

theorem start_closed : State.start (text ++ ")").toList = (State.start text.toList).within [] [')'] := by
  simp [State.start, State.within]

/-- What becomes of a pattern with a closing parenthesis behind it tells what becomes of it in a group. If it takes in the
parenthesis, the group stays open. If not, the reader comes to what closes the group. -/
theorem parses_within_of_parses (h : (State.start text.toList).Parses p) :
    ((State.start (text ++ ")").toList).Parses p ∧
        ∀ outer u, outer ≠ [] → Closes u → ∀ q, ¬((State.start text.toList).within outer u).Parses q) ∨
      ((∀ q, ¬(State.start (text ++ ")").toList).Parses q) ∧
        ∃ e : State, e.Ends p ∧ ∀ outer u, Closes u → e.flags.skip (e.rest ++ u) = u ∧
          ∀ q, ((State.start text.toList).within outer u).Parses q ↔ (e.within outer u).Parses q) := by
  obtain ⟨e, hReach, hEnd⟩ := h
  rw [start_closed]
  rcases hReach.within hEnd with hWithin | hWithin
  · right
    refine ⟨fun q hParses => ?_, e, hEnd, fun outer u hu => ?_⟩
    · obtain ⟨hReach, hSkip⟩ := hWithin [] [')'] (.inl rfl)
      rw [hReach.parses_iff, State.parses_iff] at hParses
      rcases hParses with hEnds | ⟨s', ⟨c, rest, hSkip', hStep⟩, -⟩
      · cases hSkip.symm.trans hEnds.rest
      · cases hSkip.symm.trans hSkip'
        have hClose : (e.within [] [')']).close [] = some s' := hStep
        simp [State.close, State.within, hEnd.groups] at hClose
    · obtain ⟨hReach, hSkip⟩ := hWithin outer u hu
      exact ⟨hSkip, fun q => hReach.parses_iff⟩
  · left
    constructor
    · obtain ⟨v, hReach, hSkip⟩ := hWithin [] [')'] (.inl rfl)
      refine ⟨_, hReach, hSkip, ?_, hEnd.finish⟩
      simp [State.within, hEnd.groups]
    · intro outer u hOuter hu q hParses
      obtain ⟨v, hReach, hSkip⟩ := hWithin outer u hu
      rw [hReach.parses_iff, State.parses_iff_ends hSkip] at hParses
      exact hOuter (List.append_eq_nil_iff.mp hParses.groups).2

/-- A pattern that is written into a group is one there if it does not end in a comment, and if it is not too deep with what
is around it. -/
theorem ofText?_enclosed_iff {written : String} {g : OpenGroup} {u : List Char} {r : Pattern} (hu : Closes u)
    (hWritten : ∀ q, (State.start written.toList).Parses q ↔ ((State.start text.toList).within [g] u).Parses q)
    (hClosing : ∀ e : State, e.Ends p → e.flags.skip (e.rest ++ u) = u → ∀ q, (e.within [g] u).Parses q ↔ q = r)
    (h : ofText? text = some p) : ofText? written = some q ↔ q = r ∧ ¬EndsInComment text ∧ depth r ≤ 250 := by
  obtain ⟨hParses, hDepth⟩ := ofText?_eq_some_iff.mp h
  rw [ofText?_eq_some_iff, hWritten]
  rcases parses_within_of_parses hParses with ⟨hClosed, hNone⟩ | ⟨hClosed, e, hEnd, hEnclosed⟩
  · have hComment : EndsInComment text := Option.isSome_iff_exists.mpr ⟨p, ofText?_eq_some_iff.mpr ⟨hClosed, hDepth⟩⟩
    exact ⟨fun hq => absurd hq.1 (hNone [g] u (by simp) hu q), fun hq => absurd hComment hq.2.1⟩
  · have hNoComment : ¬EndsInComment text := fun hComment => by
      obtain ⟨q, hq⟩ := Option.isSome_iff_exists.mp hComment
      exact hClosed q (ofText?_eq_some_iff.mp hq).1
    obtain ⟨hSkip, hParsesIff⟩ := hEnclosed [g] u hu
    rw [hParsesIff, hClosing e hEnd hSkip]
    constructor
    · rintro ⟨rfl, hLe⟩
      exact ⟨rfl, hNoComment, hLe⟩
    · rintro ⟨rfl, -, hLe⟩
      exact ⟨rfl, hLe⟩

theorem ofText?_grouped_iff (h : ofText? text = some p) :
    ofText? (grouped text) = some q ↔ q = .group p ∧ ¬EndsInComment text ∧ depth p ≤ 249 := by
  rw [ofText?_enclosed_iff (.inl rfl) (fun _ => parses_grouped_iff) (fun _ hEnd hSkip _ => parses_atGroupEnd hEnd hSkip) h,
    depth]
  simp only [Nat.add_one_le_iff, Nat.lt_succ_iff]

theorem depth_betweenEnds : depth (betweenEnds p) = depth p + 2 := by
  simp [betweenEnds, depth, depthOfAll]

/-- A pattern is one between anchors if it does not end in a comment, and if it is not too deep for two more levels. -/
theorem ofText?_anchored_iff (h : ofText? text = some p) :
    ofText? (anchored text) = some q ↔ q = betweenEnds p ∧ ¬EndsInComment text ∧ depth p ≤ 248 := by
  rw [ofText?_enclosed_iff (.inr rfl) (fun _ => parses_anchored_iff) (fun _ hEnd hSkip _ => parses_atAnchor hEnd hSkip) h,
    depth_betweenEnds]
  simp only [Nat.reduceLeDiff]

/-- A text that is no pattern is none between anchors, unless it closes a group that it does not open. -/
theorem ofText?_anchored_eq_none (h : ofText? text = none) (hCloses : ¬ClosesUnopened text) :
    ofText? (anchored text) = none := by
  rw [Option.eq_none_iff_forall_ne_some]
  intro q hq
  obtain ⟨hParses, hDepth⟩ := ofText?_eq_some_iff.mp hq
  rw [parses_anchored_iff] at hParses
  rcases State.parses_of_within (by simp) (.inr rfl) hParses with hUnopened | ⟨p, hAlone⟩
  · exact hCloses hUnopened
  · -- The text parses, so it can only be too deep for a pattern, and with anchors it is deeper.
    rcases parses_within_of_parses hAlone with ⟨-, hNone⟩ | ⟨-, e, hEnd, hEnclosed⟩
    · exact hNone _ _ (by simp) (.inr rfl) q hParses
    · obtain ⟨hSkip, hParsesIff⟩ := hEnclosed [anchorGroup] [')', '$'] (.inr rfl)
      obtain rfl := (parses_atAnchor hEnd hSkip).mp ((hParsesIff q).mp hParses)
      rw [depth_betweenEnds] at hDepth
      rw [ofText?_eq_some_iff.mpr ⟨hAlone, by omega⟩] at h
      cases h

end Anchored

end TemplateQuery.Pattern
