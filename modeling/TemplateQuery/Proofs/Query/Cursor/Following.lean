import TemplateQuery.Proofs.Query.Cursor.Basic
import TemplateQuery.Proofs.Query.Following

/-!
# Two readers side by side

A cursor follows a reader if it makes of the text from its place on just what the reader makes of the text that is left:
it comes to the same value with the same characters left, or to the error of the same fault. On its way it must not leave
the text, and it must not jump over a character that it has not compared. Each operation of cursors has a rule that says
what is to be shown of the steps after it.
-/
namespace TemplateQuery.Query

open Text (isBlank skipBlank)

variable {α β : Type} {text : List Char}

/-! ## Trails in a text -/

/-- The steps that a text allows: what was found is there, the cursor stays within the text, and each character that a
move of more than one character goes over was found before. -/
inductive Trail.Sound (text : List Char) : Trail → Prop
  | nil : Sound text []
  | found {trail : Trail} {position : Nat} {c : Char} (earlier : Sound text trail) (there : text[position]? = some c) :
      Sound text (.found position c :: trail)
  | moved {trail : Trail} {position : Nat} (earlier : Sound text trail) (within : position ≤ text.length)
      (compared : trail.place + 1 < position → ∀ i, trail.place ≤ i → i < position → ∃ c, Step.found i c ∈ trail) :
      Sound text (.moved position :: trail)

theorem Trail.Sound.place_le {trail : Trail} (h : trail.Sound text) : trail.place ≤ text.length := by
  induction h with
  | nil => exact Nat.zero_le _
  | found _ _ ih => exact ih
  | moved _ within _ _ => exact within

/-- The cursor stands in front of the rest of the text. -/
structure Trail.StandsAt (text s : List Char) (trail : Trail) : Prop where
  sound : trail.Sound text
  drop_place : text.drop trail.place = s

namespace Trail.StandsAt

variable {trail : Trail} {s : List Char}

theorem length_eq (h : trail.StandsAt text s) : text.length - trail.place = s.length := by
  rw [← h.drop_place, List.length_drop]

theorem getElem? (h : trail.StandsAt text s) (i : Nat) : text[trail.place + i]? = s[i]? := by
  rw [← h.drop_place, List.getElem?_drop]

theorem found (h : trail.StandsAt text s) {i : Nat} {c : Char} (hc : s[i]? = some c) :
    Trail.StandsAt text s (.found (trail.place + i) c :: trail) where
  sound := .found h.sound (by rw [h.getElem?, hc])
  drop_place := h.drop_place

/-- Going over some characters, of which either there is only one or each was found before. -/
theorem jump {w : List Char} (h : trail.StandsAt text (w ++ s))
    (hFound : 1 < w.length → ∀ i < w.length, ∃ c, Step.found (trail.place + i) c ∈ trail) :
    Trail.StandsAt text s (.moved (trail.place + w.length) :: trail) where
  sound := by
    have hLength := h.length_eq
    have hPlace := h.sound.place_le
    rw [List.length_append] at hLength
    refine .moved h.sound (by omega) fun hFar i hFrom hTo => ?_
    obtain ⟨c, hc⟩ := hFound (by omega) (i - trail.place) (by omega)
    rw [show trail.place + (i - trail.place) = i by omega] at hc
    exact ⟨c, hc⟩
  drop_place := by
    rw [Trail.place, ← List.drop_drop, h.drop_place, List.drop_left]

end Trail.StandsAt

/-! ## Following -/

/-- What stands where a fault was found is a rest of the text, and no white space. -/
def Fault.IsIn (text : List Char) : Fault → Prop
  | .expected _ rest => rest <:+ text ∧ ∀ c ∈ rest.head?, isBlank c = false
  | _ => True

/-- What a cursor comes to, beside what a reader comes to that leaves at most some number of characters. -/
inductive Tracks (text : List Char) (n : Nat) : Except Fault (α × List Char) → Except Error α × Trail → Prop
  | ok {x : α} {rest : List Char} {trail : Trail} (stands : trail.StandsAt text rest) (shorter : rest.length ≤ n) :
      Tracks text n (.ok (x, rest)) (.ok x, trail)
  | error {fault : Fault} {trail : Trail} (sound : trail.Sound text) (isIn : fault.IsIn text) :
      Tracks text n (.error fault) (.error (fault.toError text.length), trail)

/-- In front of a rest of the text, a cursor comes to what a reader comes to. -/
def Follows (text s : List Char) (n : Nat) (cursor : Cursor α) (x : Except Fault (α × List Char)) : Prop :=
  ∀ trail : Trail, trail.StandsAt text s → Tracks text n x (cursor text trail)

theorem Cursor.bind_apply (cursor : Cursor β) (next : β → Cursor α) (trail : Trail) :
    (cursor >>= next) text trail = match cursor text trail with
      | (.ok b, trail) => next b text trail
      | (.error e, trail) => (.error e, trail) := rfl

section Rules

variable {s : List Char} {n m : Nat} {x : Except Fault (α × List Char)}

theorem follows_pure (a : α) (h : s.length ≤ n) : Follows text s n (pure a) (.ok (a, s)) :=
  fun _ hStands => .ok hStands h

theorem Follows.mono {cursor : Cursor α} (h : Follows text s m cursor x) (hLess : m ≤ n) : Follows text s n cursor x := by
  intro trail hStands
  have hTracks := h trail hStands
  generalize cursor text trail = outcome at hTracks ⊢
  cases hTracks with
  | ok stands shorter => exact .ok stands (Nat.le_trans shorter hLess)
  | error sound isIn => exact .error sound isIn

theorem Follows.bind {y : Except Fault (β × List Char)} {cursor : Cursor β} {next : β → Cursor α}
    {f : β × List Char → Except Fault (α × List Char)} (h : Follows text s m cursor y)
    (hNext : ∀ b r, r.length ≤ m → Follows text r n (next b) (f (b, r))) :
    Follows text s n (cursor >>= next) (y >>= f) := by
  intro trail hStands
  have hTracks := h trail hStands
  rw [Cursor.bind_apply]
  generalize cursor text trail = outcome at hTracks ⊢
  cases hTracks with
  | ok stands shorter => exact hNext _ _ shorter _ stands
  | error sound isIn => exact .error sound isIn

theorem follows_fail {fault : Fault} (hIn : fault.IsIn text) {e : Error} (he : fault.toError text.length = e) :
    Follows text s n (Cursor.fail e : Cursor α) (.error fault) := by
  subst he
  exact fun _ hStands => .error hStands.sound hIn

/-- Going on after a cursor that does not fail. -/
theorem Follows.andThen {b : β} {r : List Char} {cursor : Cursor β} {next : β → Cursor α}
    (h : Follows text s m cursor (.ok (b, r))) (hNext : Follows text r n (next b) x) :
    Follows text s n (cursor >>= next) x := by
  intro trail hStands
  have hTracks := h trail hStands
  rw [Cursor.bind_apply]
  generalize cursor text trail = outcome at hTracks ⊢
  cases hTracks with
  | ok stands shorter => exact hNext _ stands

/-! ## Operations -/

theorem follows_position {next : Nat → Cursor α}
    (h : ∀ start, text.drop start = s → start ≤ text.length → Follows text s n (next start) x) :
    Follows text s n (Cursor.position >>= next) x :=
  fun trail hStands => h trail.place hStands.drop_place hStands.sound.place_le trail hStands

theorem follows_remaining : Follows text s s.length Cursor.remaining (.ok (s.length, s)) := by
  intro trail hStands
  change Tracks text s.length _ (.ok (text.length - trail.place), trail)
  rw [hStands.length_eq]
  exact .ok hStands (Nat.le_refl _)

theorem follows_peekAt (i : Nat) : Follows text s s.length (Cursor.peekAt i) (.ok (s[i]?, s)) := by
  intro trail hStands
  change Tracks text s.length _ (.ok text[trail.place + i]?, trail)
  rw [hStands.getElem?]
  exact .ok hStands (Nat.le_refl _)

theorem follows_peek : Follows text s s.length Cursor.peek (.ok (s.head?, s)) := by
  rw [List.head?_eq_getElem?]
  exact follows_peekAt 0

/-- One character may be gone over as it is. -/
theorem follows_jump {c : Char} : Follows text (c :: s) s.length (Cursor.jump 1) (.ok ((), s)) := by
  intro trail hStands
  have hJump : Trail.StandsAt text s (.moved (trail.place + [c].length) :: trail) :=
    hStands.jump fun hMany => absurd hMany (Nat.lt_irrefl 1)
  exact .ok hJump (Nat.le_refl _)

/-- The cursor may go back to a place where more characters were left. -/
theorem follows_goTo {start : Nat} {r : List Char} (hStart : text.drop start = r) (hWithin : start ≤ text.length)
    (hMore : s.length ≤ r.length) : Follows text s r.length (Cursor.goTo start) (.ok ((), r)) := by
  intro trail hStands
  have hLength := hStands.length_eq
  have hPlace := hStands.sound.place_le
  rw [← hStart, List.length_drop] at hMore
  have hSound : Trail.Sound text (.moved start :: trail) := .moved hStands.sound hWithin fun hFar => by omega
  exact .ok ⟨hSound, hStart⟩ (Nat.le_refl _)

theorem follows_next : Follows text s s.tail.length Cursor.next (.ok (s.head?, s.tail)) := by
  cases s with
  | nil => exact follows_peek.andThen (follows_pure none (Nat.le_refl _))
  | cons c s => exact follows_peek.andThen (follows_jump.andThen (follows_pure (some c) (Nat.le_refl _)))

/-- A character that a reader looks at, and that is left behind if it is the given one. -/
theorem follows_sign {c : Char} {taken : Unit → Cursor α} {other : Cursor α}
    (hTaken : ∀ u, s = c :: u → Follows text u n (taken ()) x) (hOther : s.head? ≠ some c → Follows text s n other x) :
    Follows text s n (do
      if (← Cursor.peek) = some c then Cursor.jump 1 >>= taken else other) x := by
  refine follows_peek.andThen ?_
  by_cases h : s.head? = some c
  · obtain ⟨u, rfl⟩ := List.head?_eq_some_iff.1 h
    rw [if_pos h]
    exact follows_jump.andThen (hTaken u rfl)
  · rw [if_neg h]
    exact hOther h

theorem follows_runWithin (p : Char → Bool) {more : Nat} (h : s.length ≤ more) :
    Follows text s s.length (Cursor.runWithin p more) (.ok (s.takeWhile p, s.dropWhile p)) := by
  induction more generalizing s with
  | zero =>
    obtain rfl := List.eq_nil_of_length_eq_zero (Nat.le_zero.1 h)
    exact follows_pure [] (Nat.le_refl _)
  | succ more ih =>
    refine follows_peek.andThen ?_
    cases s with
    | nil => exact follows_pure [] (Nat.le_refl _)
    | cons c s =>
      by_cases hc : p c = true
      · simp only [List.head?_cons, hc, if_true, List.takeWhile_cons, List.dropWhile_cons]
        have hRest := ih (Nat.le_of_succ_le_succ h)
        have hShorter : (s.dropWhile p).length ≤ (c :: s).length :=
          Nat.le_trans (List.dropWhile_sublist p).length_le (Nat.le_succ _)
        exact follows_jump.andThen (hRest.andThen (follows_pure _ hShorter))
      · simp only [List.head?_cons, hc, List.takeWhile_cons, List.dropWhile_cons]
        exact follows_pure [] (Nat.le_refl _)

theorem follows_run (p : Char → Bool) :
    Follows text s s.length (Cursor.run p) (.ok (s.takeWhile p, s.dropWhile p)) :=
  follows_remaining.andThen (follows_runWithin p (Nat.le_refl _))

theorem follows_skip : Follows text s s.length Cursor.skip (.ok ((), skipBlank s)) := by
  rw [Text.skipBlank_eq_dropWhile]
  exact (follows_run isBlank).andThen (follows_pure () (List.dropWhile_sublist isBlank).length_le)

/-! ## Comparing before jumping -/

/-- What a cursor finds when it compares a token with the text: each character of it, if the token is next. -/
structure Compared (text s : List Char) (start : Nat) (token : List Char) (trail trail' : Trail) : Prop where
  stands : trail'.StandsAt text s
  place_eq : trail'.place = trail.place
  keeps : ∀ step ∈ trail, step ∈ trail'
  found : token <+: s.drop start → ∀ i < token.length, ∃ c, Step.found (trail.place + (start + i)) c ∈ trail'

theorem cons_prefix_drop_iff {c : Char} {token : List Char} {start : Nat} :
    c :: token <+: s.drop start ↔ s[start]? = some c ∧ token <+: s.drop (start + 1) := by
  by_cases hStart : start < s.length
  · rw [List.drop_eq_getElem_cons hStart, List.cons_prefix_cons, List.getElem?_eq_getElem hStart, Option.some_inj, eq_comm]
  · rw [Nat.not_lt] at hStart
    simp [List.drop_eq_nil_of_le hStart, List.getElem?_eq_none hStart]

theorem exists_compared {trail : Trail} (h : trail.StandsAt text s) (token : List Char) (start : Nat) :
    ∃ trail', Cursor.lookahead start token text trail = (.ok (decide (token <+: s.drop start)), trail') ∧
      Compared text s start token trail trail' := by
  induction token generalizing start trail with
  | nil =>
    refine ⟨trail, ?_, h, rfl, fun _ hStep => hStep, fun _ i hi => absurd hi (Nat.not_lt_zero i)⟩
    rw [decide_eq_true List.nil_prefix]
    rfl
  | cons c token ih =>
    simp only [cons_prefix_drop_iff]
    by_cases hc : s[start]? = some c
    · have hFinds : Cursor.finds start c text trail = (.ok true, .found (trail.place + start) c :: trail) := by
        rw [Cursor.finds, h.getElem?, if_pos hc]
      obtain ⟨trail', hLook, hCompared⟩ := ih (h.found hc) (start + 1)
      refine ⟨trail', ?_, hCompared.stands, hCompared.place_eq, ?_, ?_⟩
      · simp only [hc, true_and]
        rw [← hLook, Cursor.lookahead, Cursor.bind_apply, hFinds]
        rfl
      · exact fun step hStep => hCompared.keeps step (List.mem_cons_of_mem _ hStep)
      · rintro hPrefix (_ | i) hi
        · exact ⟨c, hCompared.keeps _ List.mem_cons_self⟩
        · obtain ⟨d, hd⟩ := hCompared.found (cons_prefix_drop_iff.1 hPrefix).2 i (Nat.lt_of_succ_lt_succ hi)
          exact ⟨d, by simpa [Trail.place, Nat.add_assoc, Nat.add_comm 1 i] using hd⟩
    · have hFinds : Cursor.finds start c text trail = (.ok false, trail) := by
        rw [Cursor.finds, h.getElem?, if_neg hc]
      refine ⟨trail, ?_, h, rfl, fun _ hStep => hStep, fun hPrefix => absurd (cons_prefix_drop_iff.1 hPrefix).1 hc⟩
      simp only [hc, false_and, decide_false]
      rw [Cursor.lookahead, Cursor.bind_apply, hFinds]
      rfl

/-- What was compared may be jumped over. -/
theorem Compared.jump {token r : List Char} {trail trail' : Trail} (h : Compared text (token ++ r) 0 token trail trail') :
    Trail.StandsAt text r (.moved (trail'.place + token.length) :: trail') := by
  refine h.stands.jump fun _ i hi => ?_
  obtain ⟨c, hc⟩ := h.found (List.prefix_append token r) i hi
  rw [Nat.zero_add, ← h.place_eq] at hc
  exact ⟨c, hc⟩

/-- A token is jumped over if it is next. -/
theorem follows_token {token : List Char} {width : Nat} (hWidth : width = token.length) {taken : Unit → Cursor α}
    {other : Cursor α} (hTaken : ∀ r, s = token ++ r → Follows text r n (taken ()) x)
    (hOther : ¬ token <+: s → Follows text s n other x) :
    Follows text s n (do
      if ← Cursor.lookahead 0 token then Cursor.jump width >>= taken else other) x := by
  intro trail hStands
  obtain ⟨trail', hLook, hCompared⟩ := exists_compared hStands token 0
  rw [Cursor.bind_apply, hLook, List.drop_zero]
  by_cases hNext : token <+: s
  · obtain ⟨r, rfl⟩ := hNext
    rw [decide_eq_true (List.prefix_append token r), hWidth]
    exact hTaken r rfl _ hCompared.jump
  · rw [decide_eq_false hNext]
    exact hOther hNext _ hCompared.stands

theorem any_isNameChar_getElem? (s : List Char) (i : Nat) : s[i]?.any isNameChar = startsWithNameChar (s.drop i) := by
  rw [← List.head?_drop]
  cases s.drop i <;> rfl

/-- A keyword is jumped over if it is next and no longer name starts with it. -/
theorem follows_keyword {word : List Char} {taken other : Cursor α}
    (hTaken : ∀ r, afterKeyword? word s = some r → r.length ≤ s.length → Follows text r n taken x)
    (hOther : afterKeyword? word s = none → Follows text s n other x) :
    Follows text s n (do
      if ← Cursor.eatKeyword word then taken else other) x := by
  intro trail hStands
  obtain ⟨trail', hLook, hCompared⟩ := exists_compared hStands word 0
  have hPeek : Cursor.peekAt word.length text trail' = (.ok s[word.length]?, trail') := by
    rw [Cursor.peekAt, hCompared.stands.getElem?]
  rw [Cursor.bind_apply, Cursor.eatKeyword, Cursor.bind_apply, hLook, List.drop_zero]
  by_cases hNext : word <+: s
  · simp only [decide_eq_true hNext, if_true, Cursor.bind_apply, hPeek, any_isNameChar_getElem?]
    obtain ⟨r, rfl⟩ := hNext
    rw [List.drop_left]
    cases hName : startsWithNameChar r with
    | true =>
      have hNone : afterKeyword? word (word ++ r) = none := by simp [afterKeyword?, hName]
      exact hOther hNone _ hCompared.stands
    | false =>
      have hSome : afterKeyword? word (word ++ r) = some r := by simp [afterKeyword?, hName]
      exact hTaken r hSome (by simp) _ hCompared.jump
  · have hNone : afterKeyword? word s = none := by simp [afterKeyword?, hNext]
    simp only [decide_eq_false hNext]
    exact hOther hNone _ hCompared.stands

end Rules

end TemplateQuery.Query
