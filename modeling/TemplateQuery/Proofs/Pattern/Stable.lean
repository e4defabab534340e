import Mathlib
import TemplateQuery.Pattern.Reader

/-!
# Readers and the text behind

What becomes of a reader of patterns if a closing parenthesis, or one with a dollar sign behind it, is put behind its text?
A reader that stops in the text stops at the same place, unless it ends with a comment: then the comment takes in what is
behind the text. A reader that fails may fail since it needs more than the text. Only then is there a chance for it to
succeed now, and what it leaves is less than what was put behind the text.
-/
namespace TemplateQuery.Pattern

/-- What a reader makes of a text alone, of the text with a closing parenthesis behind it, and of the text with a closing
parenthesis and a dollar sign behind it. -/
inductive Stable {α : Type} (passed : Nat) (s : List Char) :
    Option (α × List Char) → Option (α × List Char) → Option (α × List Char) → Prop
  /-- It stops in the text. -/
  | stops {a : α} {r : List Char} (h : r <:+ s) :
      Stable passed s (some (a, r)) (some (a, r ++ [')'])) (some (a, r ++ [')', '$']))
  /-- It ends with a comment that takes in all that is behind the text. -/
  | comment {a : α} : Stable passed s (some (a, [])) (some (a, [])) (some (a, []))
  /-- It fails alone. Otherwise it passes so many characters behind the text at least. -/
  | wants {x y : Option (α × List Char)} (hx : ∀ a r, x = some (a, r) → r <:+ [')'].drop passed)
      (hy : ∀ a r, y = some (a, r) → r <:+ [')', '$'].drop passed) : Stable passed s none x y

/-- A reader that is stable on every text. -/
def StableReader {α : Type} (passed : Nat) (read : List Char → Option (α × List Char)) : Prop :=
  ∀ s, Stable passed s (read s) (read (s ++ [')'])) (read (s ++ [')', '$']))

namespace Stable

section Combinators

variable {α β : Type} {passed : Nat} {s : List Char} {x y z : Option (α × List Char)}

theorem suffix (h : Stable passed s x y z) {a : α} {r : List Char} (hx : x = some (a, r)) : r <:+ s := by
  cases h with
  | stops hSuffix => cases hx; exact hSuffix
  | comment => cases hx; exact List.nil_suffix
  | wants _ _ => cases hx

theorem closed {a : α} {r : List Char} (h : Stable passed s (some (a, r)) y z) :
    (y = some (a, r ++ [')']) ∧ z = some (a, r ++ [')', '$'])) ∨ (r = [] ∧ y = some (a, []) ∧ z = some (a, [])) := by
  cases h with
  | stops _ => exact .inl ⟨rfl, rfl⟩
  | comment => exact .inr ⟨rfl, rfl, rfl⟩

theorem beyond (h : Stable passed s none y z) :
    (∀ a r, y = some (a, r) → r <:+ [')'].drop passed) ∧ ∀ a r, z = some (a, r) → r <:+ [')', '$'].drop passed := by
  cases h with
  | wants hy hz => exact ⟨hy, hz⟩

theorem mono {s' : List Char} (h : Stable passed s x y z) (hs : s <:+ s') : Stable passed s' x y z := by
  cases h with
  | stops hSuffix => exact .stops (hSuffix.trans hs)
  | comment => exact .comment
  | wants hy hz => exact .wants hy hz

theorem weaken (h : Stable 1 s x y z) : Stable 0 s x y z := by
  cases h with
  | stops hSuffix => exact .stops hSuffix
  | comment => exact .comment
  | wants hy hz =>
    exact .wants (fun a r h => (hy a r h).trans (List.drop_suffix 1 _)) fun a r h => (hz a r h).trans (List.drop_suffix 1 _)

theorem fails : Stable passed s (none : Option (α × List Char)) none none :=
  .wants (fun _ _ h => by cases h) fun _ _ h => by cases h

/-- It stops as soon as it has passed what it has to. -/
theorem wanted {a b : α} : Stable passed s none (some (a, [')'].drop passed)) (some (b, [')', '$'].drop passed)) :=
  .wants (fun _ _ h => by cases h; exact List.suffix_refl _) fun _ _ h => by cases h; exact List.suffix_refl _

theorem ite {c : Prop} [Decidable c] {x' y' z' : Option (α × List Char)} (h : c → Stable passed s x y z)
    (h' : ¬c → Stable passed s x' y' z') :
    Stable passed s (if c then x else x') (if c then y else y') (if c then z else z') := by
  by_cases hc : c
  · simpa only [if_pos hc] using h hc
  · simpa only [if_neg hc] using h' hc

/-- What was read is looked up. -/
theorem found (x : Option α) (g : α → β) (r : List Char) :
    Stable passed r (x.bind fun a => some (g a, r)) (x.bind fun a => some (g a, r ++ [')']))
      (x.bind fun a => some (g a, r ++ [')', '$'])) := by
  cases x with
  | none => exact fails
  | some a => exact stops (List.suffix_refl r)

/-- One reader after another. -/
theorem bind {k : α × List Char → Option (β × List Char)} (h : Stable passed s x y z)
    (hk : ∀ a, StableReader passed fun r => k (a, r)) : Stable passed s (x.bind k) (y.bind k) (z.bind k) := by
  cases h with
  | @stops a r hSuffix => exact (hk a r).mono hSuffix
  | @comment a =>
    simp only [Option.bind_some]
    cases hEnd : k (a, []) with
    | none => exact fails
    | some read =>
      obtain ⟨b, r⟩ := read
      obtain rfl : r = [] := List.suffix_nil.mp ((hk a []).suffix hEnd)
      exact .comment
  | wants hy hz =>
    have hLeft {b : β} {r : List Char} {w : Option (α × List Char)} (h : w.bind k = some (b, r)) :
        ∃ a r', w = some (a, r') ∧ r <:+ r' := by
      obtain ⟨⟨a, r'⟩, hw, hkr⟩ := Option.bind_eq_some_iff.mp h
      exact ⟨a, r', hw, (hk a r').suffix hkr⟩
    refine .wants (fun b r h => ?_) fun b r h => ?_
    · obtain ⟨a, r', hw, hr⟩ := hLeft h
      exact hr.trans (hy a r' hw)
    · obtain ⟨a, r', hw, hr⟩ := hLeft h
      exact hr.trans (hz a r' hw)

/-- The first reader may stop just behind the text if the second one always passes a character. -/
theorem bind_passing {k : α × List Char → Option (β × List Char)} (h : Stable 0 s x y z)
    (hk : ∀ a, StableReader 1 fun r => k (a, r)) (hPasses : ∀ a r b r', k (a, r) = some (b, r') → r' <:+ r.tail) :
    Stable 1 s (x.bind k) (y.bind k) (z.bind k) := by
  cases h with
  | stops hSuffix => exact (Stable.stops hSuffix).bind hk
  | comment => exact Stable.comment.bind hk
  | wants hy hz =>
    have hLeft {w : Option (α × List Char)} {u : List Char} (hw : ∀ a r, w = some (a, r) → r <:+ u) {b : β} {r : List Char}
        (h : w.bind k = some (b, r)) : r <:+ u.tail := by
      obtain ⟨⟨a, r'⟩, hx, hkr⟩ := Option.bind_eq_some_iff.mp h
      obtain ⟨v, rfl⟩ := hw a r' hx
      refine (hPasses a r' b r hkr).trans ?_
      rcases v with _ | ⟨c, v⟩
      · exact List.suffix_refl _
      · exact (List.tail_suffix r').trans (List.suffix_append v r')
    exact .wants (fun b r h => hLeft hy h) fun b r h => hLeft hz h

theorem map (g : α → β) (h : Stable passed s x y z) :
    Stable passed s (x.bind fun (a, r) => some (g a, r)) (y.bind fun (a, r) => some (g a, r))
      (z.bind fun (a, r) => some (g a, r)) :=
  h.bind fun _ r => .stops (List.suffix_refl r)

theorem optionMap (g : α → β) (h : Stable passed s x y z) :
    Stable passed s (x.map fun (a, r) => (g a, r)) (y.map fun (a, r) => (g a, r)) (z.map fun (a, r) => (g a, r)) := by
  simp only [Option.map_eq_bind]
  exact h.map g

/-- A reader that is called behind a first character. -/
theorem ofTail {read : List Char → Option (β × List Char)} (h : StableReader passed read) {c : Char}
    (hHead : s.head? = some c) :
    Stable passed s (read s.tail) (read (s ++ [')']).tail) (read (s ++ [')', '$']).tail) := by
  obtain ⟨rest, rfl⟩ := List.head?_eq_some_iff.mp hHead
  exact (h rest).mono (List.suffix_cons c rest)

end Combinators

end Stable

/-! ## The front of a text -/

/-- The two texts that are put behind. -/
def Closes (u : List Char) : Prop := u = [')'] ∨ u = [')', '$']

theorem forall_closes {P : List Char → Prop} (h : P [')']) (h' : P [')', '$']) : ∀ u, Closes u → P u := by
  rintro u (rfl | rfl)
  · exact h
  · exact h'

theorem head?_closed {r u : List Char} {c : Char} (hc : c ≠ ')') : (r ++ ')' :: u).head? = some c ↔ r.head? = some c := by
  cases r <;> simp [hc.symm]

theorem prefix_closed {p s u : List Char} (hp : ')' ∉ p) : p <+: s ++ ')' :: u ↔ p <+: s := by
  induction s generalizing p with
  | nil =>
    cases p with
    | nil => simp
    | cons c p =>
      refine ⟨fun h => absurd (List.cons_prefix_cons.mp h).1 fun hc => hp (hc ▸ List.mem_cons_self), fun h => ?_⟩
      cases List.prefix_nil.mp h
  | cons d s ih =>
    cases p with
    | nil => simp
    | cons c p =>
      rw [List.cons_append, List.cons_prefix_cons, List.cons_prefix_cons, ih fun h => hp (List.mem_cons_of_mem c h)]

/-- A text is cut at the same mark with something behind it that does not have the mark. -/
theorem span_append {p : Char → Bool} (s : List Char) {u : List Char} (hu : ∀ c ∈ u, p c = true) :
    (s.dropWhile p = [] ∧ (s ++ u).dropWhile p = []) ∨
      ∃ c r, s.dropWhile p = c :: r ∧ (s ++ u).dropWhile p = c :: (r ++ u) ∧ (s ++ u).takeWhile p = s.takeWhile p := by
  induction s with
  | nil => exact .inl ⟨rfl, List.dropWhile_eq_nil_iff.mpr hu⟩
  | cons c rest ih =>
    by_cases hc : p c = true
    · rcases ih with ⟨h, h'⟩ | ⟨d, r, h, h', hTake⟩
      · exact .inl (by simp [hc, h, h'])
      · exact .inr ⟨d, r, by simp [hc, h], by simp [hc, h'], by simp [hc, hTake]⟩
    · exact .inr ⟨c, rest, by simp [hc], by simp [hc], by simp [hc]⟩

/-! ## White space and comments -/

theorem skipVerbose_stable (passed : Nat) (inComment : Bool) :
    StableReader passed fun s => some ((), skipVerbose inComment s) := by
  intro s
  induction s generalizing inComment with
  | nil =>
    cases inComment with
    | false => exact .stops List.nil_suffix
    | true => exact .comment
  | cons c rest ih =>
    cases inComment with
    | true => exact (ih (c != '\n')).mono (List.suffix_cons c rest)
    | false =>
      simp only [List.cons_append, skipVerbose]
      split
      · exact (ih false).mono (List.suffix_cons c rest)
      · split
        · exact (ih true).mono (List.suffix_cons c rest)
        · exact .stops (List.suffix_refl _)

namespace Flags

variable (f : Flags)

theorem skip_stable {passed : Nat} : StableReader passed fun s => some ((), f.skip s) := by
  intro s
  unfold skip
  split
  · exact skipVerbose_stable passed false s
  · exact .stops (List.suffix_refl s)

theorem skip_suffix (s : List Char) : f.skip s <:+ s :=
  (f.skip_stable s : Stable 0 s _ _ _).suffix rfl

/-- Past white space, a text goes on as before, or else it ends with a comment. -/
theorem skip_cases (s : List Char) :
    (∃ r, r <:+ s ∧ f.skip s = r ∧ f.skip (s ++ [')']) = r ++ [')'] ∧ f.skip (s ++ [')', '$']) = r ++ [')', '$']) ∨
      (f.skip s = [] ∧ f.skip (s ++ [')']) = [] ∧ f.skip (s ++ [')', '$']) = []) := by
  have h : Stable 0 s (some ((), f.skip s)) (some ((), f.skip (s ++ [')']))) (some ((), f.skip (s ++ [')', '$']))) :=
    f.skip_stable s
  generalize f.skip s = r, f.skip (s ++ [')']) = r₁, f.skip (s ++ [')', '$']) = r₂ at h
  cases h with
  | stops hSuffix => exact .inl ⟨r, hSuffix, rfl, rfl, rfl⟩
  | comment => exact .inr ⟨rfl, rfl, rfl⟩

theorem skip_closed (s : List Char) :
    (∃ r, f.skip s = r ∧ ∀ u, Closes u → f.skip (s ++ u) = r ++ u) ∨
      (f.skip s = [] ∧ ∀ u, Closes u → f.skip (s ++ u) = []) := by
  rcases f.skip_cases s with ⟨r, -, h, h₁, h₂⟩ | ⟨h, h₁, h₂⟩
  · exact .inl ⟨r, h, forall_closes h₁ h₂⟩
  · exact .inr ⟨h, forall_closes h₁ h₂⟩

@[simp] theorem skip_nil : f.skip [] = [] := by
  unfold skip
  split <;> rfl

@[simp] theorem skip_dollar : f.skip ['$'] = ['$'] := by
  unfold skip
  split <;> rfl

end Flags

/-- A reader that passes over white space first. -/
theorem StableReader.skip {β : Type} {passed : Nat} {read : List Char → Option (β × List Char)}
    (h : StableReader passed read) (f : Flags) : StableReader passed fun s => read (f.skip s) :=
  fun s => (f.skip_stable s).bind (k := fun x => read x.2) fun _ => h

/-! ## Readers with fuel -/

/-- A reader that is stable with any fuel that is not less than the text is long. -/
def StableWithFuel {α : Type} (passed : Nat) (read : Nat → List Char → Option (α × List Char)) : Prop :=
  ∀ ⦃n n₁ n₂ s⦄, s.length ≤ n → s.length + 1 ≤ n₁ → s.length + 2 ≤ n₂ →
    Stable passed s (read n s) (read n₁ (s ++ [')'])) (read n₂ (s ++ [')', '$']))

section Fuel

variable {α : Type} {passed : Nat} {read : Nat → List Char → Option (α × List Char)}

/-- A reader that calls itself on shorter texts, with less fuel. -/
theorem stableWithFuel_of_step (hEmpty : read 0 [] = read 1 [])
    (hStep : ∀ n n₁ n₂ s,
      (∀ r, r.length < s.length → Stable passed r (read n r) (read n₁ (r ++ [')'])) (read n₂ (r ++ [')', '$']))) →
      Stable passed s (read (n + 1) s) (read (n₁ + 1) (s ++ [')'])) (read (n₂ + 1) (s ++ [')', '$']))) :
    StableWithFuel passed read := by
  intro n n₁ n₂ s hn hn₁ hn₂
  induction n generalizing s n₁ n₂ with
  | zero =>
    obtain ⟨n₁, rfl⟩ := Nat.exists_eq_add_of_le' (le_trans (Nat.le_add_left 1 _) hn₁)
    obtain ⟨n₂, rfl⟩ := Nat.exists_eq_add_of_le' (le_trans (Nat.le_add_left 1 _) (Nat.le_of_succ_le hn₂))
    obtain rfl : s = [] := List.eq_nil_of_length_eq_zero (Nat.le_zero.mp hn)
    rw [hEmpty]
    exact hStep 0 n₁ n₂ [] fun r hr => absurd hr (Nat.not_lt_zero _)
  | succ n ih =>
    obtain ⟨n₁, rfl⟩ := Nat.exists_eq_add_of_le' (le_trans (Nat.le_add_left 1 _) hn₁)
    obtain ⟨n₂, rfl⟩ := Nat.exists_eq_add_of_le' (le_trans (Nat.le_add_left 1 _) (Nat.le_of_succ_le hn₂))
    exact hStep n n₁ n₂ s fun r hr => ih (by omega) (by omega) (by omega)

variable (read) in
/-- A reader with fuel past white space. It makes the same of the empty text whatever the fuel. -/
theorem Stable.skip_fuel (f : Flags) {n n₁ n₂ : Nat} {s : List Char} (hNil : ∀ n, read n [] = read 0 [])
    (h : ∀ r, r.length ≤ s.length → Stable passed r (read n r) (read n₁ (r ++ [')'])) (read n₂ (r ++ [')', '$']))) :
    Stable passed s (read n (f.skip s)) (read n₁ (f.skip (s ++ [')']))) (read n₂ (f.skip (s ++ [')', '$']))) := by
  rcases f.skip_cases s with ⟨r, hr, hs, hs₁, hs₂⟩ | ⟨hs, hs₁, hs₂⟩
  · rw [hs, hs₁, hs₂]
    exact (h r hr.length_le).mono hr
  · rw [hs, hs₁, hs₂, hNil n₁, hNil n₂, ← hNil n]
    cases hRead : read n [] with
    | none => exact .fails
    | some x =>
      obtain ⟨b, r⟩ := x
      obtain rfl : r = [] := List.suffix_nil.mp ((h [] (Nat.zero_le _)).suffix hRead)
      exact .comment

end Fuel

end TemplateQuery.Pattern
