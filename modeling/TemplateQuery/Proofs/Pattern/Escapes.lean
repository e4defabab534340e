import Mathlib
import TemplateQuery.Proofs.Pattern.Stable

/-!
# Escapes and the text behind

All that a backslash introduces is read stably, with one exception: the name of a word boundary in braces may be missing
at the end of a text. With a closing text behind it, such a brace stands for itself.
-/
namespace TemplateQuery.Pattern

section Escapes

variable (f : Flags)

theorem readHexDigits_stable (n : Nat) : StableReader 1 (readHexDigits f n) := by
  induction n with
  | zero => exact fun s => .stops (List.suffix_refl s)
  | succ n ih =>
    intro s
    cases s with
    | nil => exact .fails
    | cons c rest =>
      simp only [readHexDigits, List.cons_append]
      split
      · exact ((ih.skip f rest).map (c :: ·)).mono (List.suffix_cons c rest)
      · exact .fails

theorem readBracedHex_succ (n : Nat) (s : List Char) :
    readBracedHex f (n + 1) s = match f.skip s with
      | [] => none
      | c :: rest =>
        if c = '\x7d' then some ([], f.skip rest)
        else if Text.isHexDigit c then (readBracedHex f n rest).bind fun (digits, rest) => some (c :: digits, rest)
        else none := by
  rw [readBracedHex]
  split <;> simp_all

theorem readBracedHex_stable : StableWithFuel 1 (readBracedHex f) := by
  refine stableWithFuel_of_step (by simp [readBracedHex]) fun n n₁ n₂ s ih => ?_
  simp only [readBracedHex_succ]
  rcases f.skip_cases s with ⟨r, hr, h, h₁, h₂⟩ | ⟨h, h₁, h₂⟩
  · simp only [h, h₁, h₂]
    cases r with
    | nil => exact .fails
    | cons c rest =>
      apply Stable.mono _ ((List.suffix_cons c rest).trans hr)
      simp only [List.cons_append]
      split
      · exact (f.skip_stable rest).map fun _ => []
      · split
        · exact (ih rest (Nat.lt_of_succ_le hr.length_le)).map (c :: ·)
        · exact .fails
  · simp only [h, h₁, h₂]
    exact .fails

theorem readHex_eq (count : Nat) (s : List Char) :
    readHex f count s = (some ((), f.skip s)).bind fun (_, r) =>
      if r.head? = some '\x7b' then
        (readBracedHex f (r.tail.length + 1) r.tail).bind fun (digits, rest) =>
          if digits.isEmpty then none else (hexScalar? digits).bind fun c => some (⟨c, false⟩, rest)
      else (readHexDigits f count r).bind fun (digits, rest) =>
        (hexScalar? digits).bind fun c => some (⟨c, count == 2⟩, rest) := by
  simp only [Option.bind_some]
  unfold readHex
  split
  next rest h => simp [h]
  next hNot =>
    rw [if_neg]
    · rfl
    · intro h
      obtain ⟨rest, h⟩ := List.head?_eq_some_iff.mp h
      exact hNot rest h

theorem readHex_stable (count : Nat) : StableReader 1 (readHex f count) := by
  intro s
  simp only [readHex_eq]
  refine (f.skip_stable s).bind fun _ r => ?_
  simp only [head?_closed (show '\x7b' ≠ ')' by decide)]
  refine .ite (fun hBrace => ?_) fun _ =>
    (readHexDigits_stable f count r).bind fun digits r => .found (hexScalar? digits) (Literal.mk · (count == 2)) r
  obtain ⟨rest, rfl⟩ := List.head?_eq_some_iff.mp hBrace
  apply Stable.mono _ (List.suffix_cons _ rest)
  refine (readBracedHex_stable f (by simp) (by simp) (by simp)).bind fun digits r => ?_
  exact .ite (fun _ => .fails) fun _ => .found (hexScalar? digits) (Literal.mk · false) r

theorem readBracedName_succ (n : Nat) (s : List Char) :
    readBracedName f (n + 1) s = match f.skip s with
      | [] => none
      | c :: rest =>
        if c = '\x7d' then some ([], rest)
        else (readBracedName f n rest).bind fun (name, rest) => some (c :: name, rest) := by
  rw [readBracedName]
  split <;> simp_all

theorem readBracedName_nil (n : Nat) : readBracedName f n [] = none := by
  cases n <;> simp [readBracedName]

theorem readBracedName_dollar (n : Nat) : readBracedName f n ['$'] = none := by
  cases n <;> simp [readBracedName, readBracedName_nil]

theorem readBracedName_stable : StableWithFuel 1 (readBracedName f) := by
  refine stableWithFuel_of_step (by simp [readBracedName]) fun n n₁ n₂ s ih => ?_
  simp only [readBracedName_succ]
  rcases f.skip_cases s with ⟨r, hr, h, h₁, h₂⟩ | ⟨h, h₁, h₂⟩
  · simp only [h, h₁, h₂]
    cases r with
    | nil =>
      simp only [List.nil_append, readBracedName_nil, readBracedName_dollar]
      exact .fails
    | cons c rest =>
      apply Stable.mono _ ((List.suffix_cons c rest).trans hr)
      simp only [List.cons_append]
      split
      · exact .stops (List.suffix_refl rest)
      · exact (ih rest (Nat.lt_of_succ_le hr.length_le)).map (c :: ·)
  · simp only [h, h₁, h₂]
    exact .fails

theorem readProperty_eq (negated : Bool) (s : List Char) :
    readProperty f negated s = (some ((), f.skip s)).bind fun (_, r) =>
      (match r with
        | [] => none
        | c :: rest =>
          if c = '\x7b' then
            (readBracedName f (rest.length + 1) rest).bind fun (name, rest) => some (queryOf name, rest)
          else if c = '\\' then none
          else some (⟨false, named? [c]⟩, f.skip rest)).bind fun (query, rest) => query.set.bind fun set =>
        if f.unicode then some (.complementIf (negated != query.negated) (.foldedBy f.caseRule set), rest) else none := by
  unfold readProperty
  simp only [Option.bind_some]
  split <;> simp_all [Option.bind_assoc]

theorem readProperty_stable (negated : Bool) : StableReader 1 (readProperty f negated) := by
  intro s
  simp only [readProperty_eq]
  refine (f.skip_stable s).bind fun _ r => Stable.bind ?_ fun query rest => ?_
  · cases r with
    | nil =>
      -- A closing parenthesis is the name of no property, but the reader does not get to know it here.
      have hRest (u rest : List Char) (q : PropertyQuery) (h : some (⟨false, named? [')']⟩, f.skip u) = some (q, rest)) :
          rest <:+ u := by
        cases h
        exact f.skip_suffix u
      exact .wants (fun q rest h => hRest [] rest q h) fun q rest h => hRest ['$'] rest q h
    | cons c rest =>
      apply Stable.mono _ (List.suffix_cons c rest)
      simp only [List.cons_append]
      split
      · exact (readBracedName_stable f (by simp) (by simp) (by simp)).map queryOf
      · split
        · exact .fails
        · exact (f.skip_stable rest).map fun _ => (⟨false, named? [c]⟩ : PropertyQuery)
  · dsimp only
    cases query.set with
    | none => exact .fails
    | some set => exact .ite (fun _ => .stops (List.suffix_refl rest)) fun _ => .fails

/-! ## Word boundaries -/

theorem takeBoundaryName_stable : StableWithFuel 1 fun n s => some (takeBoundaryName f n s) := by
  refine stableWithFuel_of_step rfl fun n n₁ n₂ s ih => ?_
  cases s with
  | nil => exact .stops List.nil_suffix
  | cons c rest =>
    simp only [takeBoundaryName, List.cons_append]
    split
    · apply Stable.mono _ (List.suffix_cons c rest)
      have hRest := Stable.skip_fuel (fun n s => some (takeBoundaryName f n s)) f (fun n => by cases n <;> rfl)
        fun r (hr : r.length ≤ rest.length) => ih r (Nat.lt_succ_of_le hr)
      exact hRest.map (c :: ·)
    · exact .stops (List.suffix_refl _)

/-- A brace that is opened and not closed again, with nothing in it. -/
def BraceLeftOpen (s : List Char) : Prop := ∃ rest, s = '\x7b' :: rest ∧ f.skip rest = []

theorem readBoundary_brace {rest inner : List Char} {c : Char} (h : f.skip rest = c :: inner) :
    readBoundary f ('\x7b' :: rest) =
      if isBoundaryNameChar c then
        (some (takeBoundaryName f (inner.length + 1) (c :: inner))).bind fun (name, rest) =>
          if rest.head? = some '\x7d' then (specialBoundary? f.unicode name).map fun a => (a, rest.tail) else none
      else some (.boundary f.unicode, '\x7b' :: rest) := by
  simp only [readBoundary, h, Option.bind_some]
  split
  · obtain ⟨name, rest⟩ := takeBoundaryName f (inner.length + 1) (c :: inner)
    split
    next hRest => cases hRest; rfl
    next hNot =>
      rw [if_neg]
      intro hHead
      obtain ⟨rest, rfl⟩ := List.head?_eq_some_iff.mp hHead
      exact hNot name rest rfl
  · rfl

theorem readBoundary_plain {s : List Char} (h : s.head? ≠ some '\x7b') :
    readBoundary f s = some (.boundary f.unicode, s) := by
  unfold readBoundary
  split <;> simp_all

theorem readBoundary_stable {s : List Char} (hOpen : ¬BraceLeftOpen f s) :
    Stable 1 s (readBoundary f s) (readBoundary f (s ++ [')'])) (readBoundary f (s ++ [')', '$'])) := by
  by_cases hHead : s.head? = some '\x7b'
  · obtain ⟨rest, rfl⟩ := List.head?_eq_some_iff.mp hHead
    rcases f.skip_cases rest with ⟨r, hr, h, h₁, h₂⟩ | ⟨h, -, -⟩
    · cases r with
      | nil => exact absurd ⟨rest, rfl, h⟩ hOpen
      | cons c inner =>
        simp only [List.cons_append] at h₁ h₂ ⊢
        rw [readBoundary_brace f h, readBoundary_brace f h₁, readBoundary_brace f h₂]
        refine .ite (fun _ => ?_) fun _ => .stops (List.suffix_refl _)
        apply Stable.mono _ (hr.trans (List.suffix_cons _ rest))
        have hName := takeBoundaryName_stable f (n := inner.length + 1) (s := c :: inner) (by simp) le_rfl le_rfl
        refine .bind (by simpa using hName) fun name rest => ?_
        simp only [head?_closed (show '\x7d' ≠ ')' by decide)]
        refine .ite (fun hBrace => ?_) fun _ => .fails
        obtain ⟨rest, rfl⟩ := List.head?_eq_some_iff.mp hBrace
        cases specialBoundary? f.unicode name with
        | none => exact .fails
        | some a => exact .stops (List.suffix_cons _ rest)
    · exact absurd ⟨rest, rfl, h⟩ hOpen
  · have hClosed (u : List Char) : (s ++ ')' :: u).head? ≠ some '\x7b' := by rwa [ne_eq, head?_closed (by decide)]
    rw [readBoundary_plain f hHead, readBoundary_plain f (hClosed _), readBoundary_plain f (hClosed _)]
    exact .stops (List.suffix_refl s)

namespace BraceLeftOpen

variable {f} {s : List Char}

theorem readBoundary_eq_none (h : BraceLeftOpen f s) : readBoundary f s = none := by
  obtain ⟨rest, rfl, h⟩ := h
  simp [readBoundary, h]

/-- With a closing text behind it, the brace is left to be read once more. -/
theorem readBoundary_closed (h : BraceLeftOpen f s) {u : List Char} (hu : Closes u) {a : Assertion} {r : List Char}
    (hRead : readBoundary f (s ++ u) = some (a, r)) : ∃ rest, r = '\x7b' :: rest ∧ f.skip rest = u := by
  obtain ⟨rest, rfl, h⟩ := h
  have hSkip : f.skip (rest ++ u) = u ∨ f.skip (rest ++ u) = [] := by
    rcases f.skip_closed rest with ⟨r, hs, hClosed⟩ | ⟨-, hClosed⟩
    · obtain rfl : r = [] := hs.symm.trans h
      exact .inl (hClosed u hu)
    · exact .inr (hClosed u hu)
  have hName : isBoundaryNameChar ')' = false := rfl
  rcases hSkip with hSkip | hSkip
  · refine ⟨rest ++ u, ?_, hSkip⟩
    rcases hu with rfl | rfl <;> simp_all [readBoundary]
  · simp [readBoundary, hSkip] at hRead

end BraceLeftOpen

/-! ## All escapes -/

theorem readEscape_boundary (s : List Char) :
    readEscape f ('b' :: s) = (readBoundary f s).map fun (a, rest) => (.look a, rest) := rfl

theorem readEscape_stable {s : List Char} (hOpen : ∀ rest, s = 'b' :: rest → ¬BraceLeftOpen f rest) :
    Stable 1 s (readEscape f s) (readEscape f (s ++ [')'])) (readEscape f (s ++ [')', '$'])) := by
  cases s with
  | nil =>
    have hRead (u : List Char) : readEscape f (')' :: u) = some (.literal ⟨')', false⟩, u) := rfl
    rw [List.nil_append, List.nil_append, hRead, hRead]
    exact .wanted
  | cons c rest =>
    apply Stable.mono _ (List.suffix_cons c rest)
    rw [List.cons_append, List.cons_append, readEscape, readEscape, readEscape]
    have hHere (e : Escape) : Stable 1 rest (some (e, rest)) (some (e, rest ++ [')'])) (some (e, rest ++ [')', '$'])) :=
      .stops (List.suffix_refl rest)
    refine .ite (fun _ => (readHex_stable f 2 rest).optionMap Escape.literal) fun _ => ?_
    refine .ite (fun _ => (readHex_stable f 4 rest).optionMap Escape.literal) fun _ => ?_
    refine .ite (fun _ => (readHex_stable f 8 rest).optionMap Escape.literal) fun _ => ?_
    refine .ite (fun _ => (readProperty_stable f _ rest).optionMap Escape.set) fun _ => .ite (fun _ => ?_) fun _ => ?_
    · cases classSet? f c with
      | none => exact .fails
      | some set => exact hHere _
    refine .ite (fun _ => hHere _) fun _ => .ite (fun _ => hHere _) fun _ => .ite (fun _ => hHere _) fun _ => ?_
    refine .ite (fun hBoundary => ?_) fun _ => ?_
    · subst hBoundary
      exact (readBoundary_stable f (hOpen rest rfl)).optionMap Escape.look
    refine .ite (fun _ => hHere _) fun _ => .ite (fun _ => hHere _) fun _ => .ite (fun _ => hHere _) fun _ => ?_
    cases controlChar? c with
    | none => exact .fails
    | some c => exact hHere _

end Escapes

end TemplateQuery.Pattern
