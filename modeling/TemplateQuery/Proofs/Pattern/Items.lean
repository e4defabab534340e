import Mathlib
import TemplateQuery.Proofs.Pattern.Sets

/-!
# The items of a pattern

A step of the reader reads an item, which depends on the flags and on nothing else that the reader remembers, and applies
the item to the groups that are open. Items are read stably, but for an escape with a brace left open.
-/
namespace TemplateQuery.Pattern

/-! ## Repetition -/

theorem dropLazy_stable (passed : Nat) : StableReader passed fun s => some ((), dropLazy s) := by
  intro s
  rcases s with _ | ⟨c, rest⟩
  · exact .stops List.nil_suffix
  · by_cases hc : c = '?'
    · subst hc
      exact .stops (List.suffix_cons _ rest)
    · have hPlain (r : List Char) : dropLazy (c :: r) = c :: r := by simp [dropLazy, hc]
      simp only [List.cons_append, hPlain]
      exact .stops (List.suffix_refl _)

theorem dropBlanks_stable (passed : Nat) : StableReader passed fun s => some ((), s.dropWhile Text.isBlank) := by
  intro s
  induction s with
  | nil => exact .stops List.nil_suffix
  | cons c rest ih =>
    simp only [List.cons_append, List.dropWhile_cons]
    split
    · exact ih.mono (List.suffix_cons c rest)
    · exact .stops (List.suffix_refl _)

section Counts

variable (f : Flags)

theorem digitsAt_stable (passed : Nat) : StableWithFuel passed fun n s => some (readCount.digitsAt f n s) := by
  refine stableWithFuel_of_step rfl fun n n₁ n₂ s ih => ?_
  cases s with
  | nil => exact .stops List.nil_suffix
  | cons c rest =>
    simp only [readCount.digitsAt, List.cons_append]
    split
    · apply Stable.mono _ (List.suffix_cons c rest)
      have hRest := Stable.skip_fuel (fun n s => some (readCount.digitsAt f n s)) f (fun n => by cases n <;> rfl)
        fun r (hr : r.length ≤ rest.length) => ih r (Nat.lt_succ_of_le hr)
      exact hRest.map (c :: ·)
    · exact .stops (List.suffix_refl _)

theorem skipBlanks_stable (passed : Nat) : StableWithFuel passed fun n s => some ((), readCount.skipBlanks f n s) := by
  refine stableWithFuel_of_step rfl fun n n₁ n₂ s ih => ?_
  cases s with
  | nil => exact .stops List.nil_suffix
  | cons c rest =>
    simp only [readCount.skipBlanks, List.cons_append]
    split
    · apply Stable.mono _ (List.suffix_cons c rest)
      exact Stable.skip_fuel (fun n s => some ((), readCount.skipBlanks f n s)) f (fun n => by cases n <;> rfl)
        fun r (hr : r.length ≤ rest.length) => ih r (Nat.lt_succ_of_le hr)
    · exact .stops (List.suffix_refl _)

theorem readCount_eq (s : List Char) :
    readCount f s = (some ((), s.dropWhile Text.isBlank)).bind fun (_, s) =>
      (some (readCount.digitsAt f s.length s)).bind fun (digits, rest) =>
        if digits.isEmpty || twoPow 32 ≤ Text.decimalValue digits then none
        else (some ((), readCount.skipBlanks f rest.length rest)).bind fun (_, rest) =>
          some (Text.decimalValue digits, rest) := rfl

theorem readCount_stable : StableReader 1 (readCount f) := by
  intro s
  simp only [readCount_eq]
  refine (dropBlanks_stable 1 s).bind fun _ r => ?_
  refine (digitsAt_stable f 1 le_rfl (by simp) (by simp)).bind fun digits r => .ite (fun _ => .fails) fun _ => ?_
  exact (skipBlanks_stable f 1 le_rfl (by simp) (by simp)).map fun _ => Text.decimalValue digits

/-- What is left behind the bounds of a repetition. -/
def afterBounds (bounds : Nat × Option Nat) (rest : List Char) : Option ((Nat × Option Nat) × List Char) :=
  (some ((), f.skip rest)).bind fun (_, rest) => (some ((), dropLazy rest)).bind fun (_, rest) => some (bounds, rest)

theorem afterBounds_stable (bounds : Nat × Option Nat) : StableReader 1 (afterBounds f bounds) :=
  fun s => (f.skip_stable s).bind fun _ r => (dropLazy_stable 1 r).map fun _ => bounds

/-- The upper bound of a repetition, and the brace behind it. -/
def readMost (least : Nat) (s : List Char) : Option ((Nat × Option Nat) × List Char) :=
  (readCount f s).bind fun (most, s) =>
    if s.head? = some '\x7d' then if least ≤ most then afterBounds f (least, some most) s.tail else none else none

theorem readMost_eq (least : Nat) (s : List Char) :
    readMost f least s = (readCount f s).bind fun (most, s) =>
      match s with
      | '\x7d' :: rest => if least ≤ most then some ((least, some most), dropLazy (f.skip rest)) else none
      | _ => none := by
  rw [readMost]
  congr 1
  funext ⟨most, r⟩
  rcases r with _ | ⟨c, rest⟩
  · rfl
  · by_cases hc : c = '\x7d'
    · subst hc
      rfl
    · simp [hc]

theorem readMost_stable (least : Nat) : StableReader 1 (readMost f least) := by
  intro s
  refine (readCount_stable f s).bind fun most r => ?_
  simp only [head?_closed (show '\x7d' ≠ ')' by decide)]
  exact .ite (fun h => .ite (fun _ => .ofTail (afterBounds_stable f _) h) fun _ => .fails) fun _ => .fails

theorem readBounds_eq (s : List Char) :
    readBounds f s = (some ((), f.skip s)).bind fun (_, s) => (readCount f s).bind fun (least, s) =>
      if s.head? = some '\x7d' then afterBounds f (least, some least) s.tail
      else if s.head? = some ',' then
        (some ((), f.skip s.tail)).bind fun (_, s) =>
          if s.head? = some '\x7d' then afterBounds f (least, none) s.tail else readMost f least s
      else none := by
  rw [readBounds]
  show (readCount f (f.skip s)).bind _ = (readCount f (f.skip s)).bind _
  congr 1
  funext ⟨least, r⟩
  rcases r with _ | ⟨c, rest⟩
  · rfl
  by_cases hBrace : c = '\x7d'
  · subst hBrace
    rfl
  by_cases hComma : c = ','
  · subst hComma
    simp only [List.head?_cons, List.tail_cons, Option.bind_some, readMost_eq]
    generalize f.skip rest = r
    rcases r with _ | ⟨d, rest⟩
    · rfl
    by_cases hEnd : d = '\x7d'
    · subst hEnd
      rfl
    · simp only [List.head?_cons, Option.some.injEq, hEnd, if_false, if_true]
      split
      next hEq => exact absurd (List.cons.inj hEq).1 hEnd
      · rfl
  · simp [hBrace, hComma]

theorem readBounds_stable : StableReader 1 (readBounds f) := by
  intro s
  simp only [readBounds_eq]
  refine (f.skip_stable s).bind fun _ r => (readCount_stable f r).bind fun least r => ?_
  simp only [head?_closed (show '\x7d' ≠ ')' by decide), head?_closed (show ',' ≠ ')' by decide)]
  refine .ite (fun h => .ofTail (afterBounds_stable f _) h) fun _ => .ite (fun h => ?_) fun _ => .fails
  refine (Stable.ofTail f.skip_stable h).bind fun _ r => ?_
  simp only [head?_closed (show '\x7d' ≠ ')' by decide)]
  exact .ite (fun h => .ofTail (afterBounds_stable f _) h) fun _ => readMost_stable f least r

/-- No bounds are read from what is behind the text. -/
theorem readBounds_closed {s u : List Char} (hu : Closes u) (h : f.skip s = u) : readBounds f s = none := by
  rw [readBounds_eq, h]
  rcases hu with rfl | rfl <;> rfl

end Counts

/-! ## Groups and flags -/

/-- The flags of a group end with a colon or a parenthesis, which may be the first character behind the text. -/
theorem readFlags_stable (items : FlagItems) : StableReader 0 (readFlags items) := by
  intro s
  induction s generalizing items with
  | nil =>
    have hLeft {u r : List Char} {a : FlagItems} (h : readFlags items (')' :: u) = some (a, r)) : r <:+ ')' :: u := by
      rw [readFlags, if_pos (.inr rfl)] at h
      split at h
      · cases h
      · cases h
        exact List.suffix_refl _
    exact .wants (fun a r h => hLeft h) fun a r h => hLeft h
  | cons c rest ih =>
    simp only [readFlags, List.cons_append]
    refine .ite (fun _ => .ite (fun _ => .fails) fun _ => .stops (List.suffix_refl _)) fun _ => ?_
    apply Stable.mono _ (List.suffix_cons c rest)
    refine .ite (fun _ => .ite (fun _ => .fails) fun _ => ih _) fun _ => .ite (fun _ => .fails) fun _ => ?_
    cases items.flags.set? c !items.negated with
    | none => exact .fails
    | some flags => exact ih _

theorem readGroupName_closed {u : List Char} (hu : Closes u) (s : List Char) :
    readGroupName (s ++ u) = (readGroupName s).map fun (name, rest) => (name, rest ++ u) := by
  have hu' : ∀ c ∈ u, (c != '>') = true := by
    rcases hu with rfl | rfl <;> simp
  rcases span_append s hu' with ⟨hDrop, hDrop'⟩ | ⟨c, after, hDrop, hDrop', hTake⟩
  · simp [readGroupName, hDrop, hDrop']
  · rw [readGroupName, readGroupName, hDrop, hDrop', hTake]
    rcases s.takeWhile (· != '>') with _ | ⟨first, name⟩
    · rfl
    by_cases hc : c = '>'
    · subst hc
      show (if isNameStart first && name.all isNameRest then some (first :: name, after ++ u) else none) =
        (if isNameStart first && name.all isNameRest then some (first :: name, after) else none).map _
      split <;> rfl
    · simp [hc]

theorem readGroupName_suffix {s name r : List Char} (h : readGroupName s = some (name, r)) : r <:+ s := by
  unfold readGroupName at h
  split at h
  next rest _ hDrop =>
    split at h
    · cases h
      have hSuffix : '>' :: r <:+ s := hDrop ▸ List.dropWhile_suffix _
      exact (List.suffix_cons _ r).trans hSuffix
    · cases h
  next => cases h

theorem readGroupName_stable : StableReader 1 readGroupName := by
  intro s
  rw [readGroupName_closed (.inl rfl), readGroupName_closed (.inr rfl)]
  cases hName : readGroupName s with
  | none => exact .fails
  | some read =>
    obtain ⟨name, rest⟩ := read
    exact .stops (readGroupName_suffix hName)

/-! ## Items -/

/-- An item of a pattern, as it is read, without the groups around it. -/
inductive Item where
  | pattern (p : Pattern)
  | branch
  | repeated (least : Nat) (most : Option Nat)
  | setFlags (flags : Flags)
  | enter (flags : Flags)
  | enterNamed (name : List Char)
  | close

/-- What flags between a question mark and a colon or a parenthesis do. -/
def readFlagGroup (f : Flags) (s : List Char) : Option (Item × List Char) :=
  (readFlags ⟨[], false, false, f⟩ s).bind fun (items, rest) =>
    if rest.head? = some ':' then some (.enter items.flags, rest.tail)
    else if rest.isEmpty || (items.seen.isEmpty && !items.negated) then none
    else some (.setFlags items.flags, rest.tail)

/-- The item that an opening parenthesis begins. -/
def readOpening (f : Flags) (s : List Char) : Option (Item × List Char) :=
  (some ((), f.skip s)).bind fun (_, s) =>
    if ['?', 'P', '<'] <+: s then (readGroupName (s.drop 3)).bind fun (name, rest) => some (.enterNamed name, rest)
    else if ['?', '<', '='] <+: s then none
    else if ['?', '<', '!'] <+: s then none
    else if ['?', '<'] <+: s then (readGroupName (s.drop 2)).bind fun (name, rest) => some (.enterNamed name, rest)
    else if s.head? = some '?' then readFlagGroup f s.tail
    else some (.enter f, s)

/-- The pattern of an escape. -/
def escapePattern? (f : Flags) : Escape → Option Pattern
  | .literal l => literalPattern? f l
  | .look a => some (.look a)
  | .set set => some (.chars set 0)

/-- The item that begins with a character. -/
def readItem (f : Flags) (c : Char) (rest : List Char) : Option (Item × List Char) :=
  match c with
  | '(' => readOpening f rest
  | ')' => some (.close, rest)
  | '|' => some (.branch, rest)
  | '[' => (readSet f rest).bind fun (item, rest) => some (.pattern (.chars item.set item.levels), rest)
  | '?' => (some ((), dropLazy rest)).bind fun (_, rest) => some (.repeated 0 (some 1), rest)
  | '*' => (some ((), dropLazy rest)).bind fun (_, rest) => some (.repeated 0 none, rest)
  | '+' => (some ((), dropLazy rest)).bind fun (_, rest) => some (.repeated 1 none, rest)
  | '\x7b' => (readBounds f rest).bind fun ((least, most), rest) => some (.repeated least most, rest)
  | '\\' => (readEscape f rest).bind fun (e, rest) => (escapePattern? f e).bind fun p => some (.pattern p, rest)
  | '.' => (anyChar f).bind fun set => some (.pattern (.chars set 0), rest)
  | '^' => some (.pattern (.look (startAssertion f)), rest)
  | '$' => some (.pattern (.look (endAssertion f)), rest)
  | c => (literalPattern? f ⟨c, false⟩).bind fun p => some (.pattern p, rest)

/-- What an item does, with the text that is left behind it. -/
def State.apply (s : State) (rest : List Char) : Item → Option State
  | .pattern p => some (s.push p rest)
  | .branch => some (s.branch rest)
  | .repeated least most => s.repeatLast least most rest
  | .setFlags flags => some { s with
      rest := rest, flags := flags, level := { s.level with parts := .flags :: s.level.parts } }
  | .enter flags => some (s.enter flags rest)
  | .enterNamed name =>
    if s.names.contains name then none else some { s.enter s.flags rest with names := name :: s.names }
  | .close => s.close rest

theorem State.openFlags_eq (s : State) (text : List Char) :
    ((readFlags ⟨[], false, false, s.flags⟩ text).bind fun (items, rest) =>
      match rest with
      | ':' :: rest => some (s.enter items.flags rest)
      | _ :: rest =>
        if items.seen.isEmpty && !items.negated then none
        else some { s with
          rest := rest, flags := items.flags, level := { s.level with parts := .flags :: s.level.parts } }
      | [] => none) =
      (readFlagGroup s.flags text).bind fun (item, rest) => s.apply rest item := by
  rw [readFlagGroup, Option.bind_assoc]
  congr 1
  funext ⟨items, r⟩
  rcases r with _ | ⟨c, rest⟩
  · rfl
  by_cases hc : c = ':'
  · subst hc
    rfl
  · dsimp only
    rw [if_neg (by simpa using hc)]
    split
    next hEq => exact absurd (List.cons.inj hEq).1 hc
    next hEq =>
      cases hEq
      simp only [List.isEmpty_cons, Bool.false_or]
      split <;> rfl
    next hEq => cases hEq

theorem State.open_eq (s : State) (rest : List Char) :
    s.open rest = (readOpening s.flags rest).bind fun (item, rest) => s.apply rest item := by
  rw [State.open, readOpening, Option.bind_some]
  dsimp only
  generalize s.flags.skip rest = r
  split
  · rw [if_pos (by simp), Option.bind_assoc]
    rfl
  · rfl
  · rfl
  next text hAhead hBehind =>
    rw [if_neg (by simp), if_neg fun ⟨r, hr⟩ => hAhead r (by simpa using hr.symm),
      if_neg fun ⟨r, hr⟩ => hBehind r (by simpa using hr.symm), if_pos (by simp), Option.bind_assoc]
    rfl
  next text hNamed hAhead hBehind hAngle =>
    rw [if_neg fun ⟨r, hr⟩ => hNamed r (by simpa using hr.symm), if_neg fun ⟨r, hr⟩ => hAhead r (by simpa using hr.symm),
      if_neg fun ⟨r, hr⟩ => hBehind r (by simpa using hr.symm), if_neg fun ⟨r, hr⟩ => hAngle r (by simpa using hr.symm),
      if_pos (by rfl)]
    exact s.openFlags_eq text
  next r hNamed hAhead hBehind hAngle hFlags =>
    rw [if_neg fun ⟨r, hr⟩ => hNamed r hr.symm, if_neg fun ⟨r, hr⟩ => hAhead r hr.symm,
      if_neg fun ⟨r, hr⟩ => hBehind r hr.symm, if_neg fun ⟨r, hr⟩ => hAngle r hr.symm, if_neg]
    · rfl
    · intro h
      obtain ⟨text, rfl⟩ := List.head?_eq_some_iff.mp h
      exact hFlags text rfl

/-- A step of the reader reads an item and applies it. -/
theorem State.step_eq (s : State) (c : Char) (rest : List Char) :
    s.step c rest = (readItem s.flags c rest).bind fun (item, rest) => s.apply rest item := by
  unfold State.step readItem
  split
  · exact s.open_eq rest
  · rfl
  · rfl
  · cases readSet s.flags rest <;> rfl
  · rfl
  · rfl
  · rfl
  · cases readBounds s.flags rest <;> rfl
  · rw [State.escape]
    cases readEscape s.flags rest with
    | none => rfl
    | some read =>
      obtain ⟨e, r⟩ := read
      cases e with
      | literal l =>
        show (literalPattern? s.flags l).bind _ = ((literalPattern? s.flags l).bind _).bind _
        cases literalPattern? s.flags l <;> rfl
      | look a => rfl
      | set members => rfl
  · cases anyChar s.flags <;> rfl
  · rfl
  · rfl
  · cases h : literalPattern? s.flags ⟨c, false⟩ <;> simp_all [State.apply]

theorem readFlagGroup_stable (f : Flags) : StableReader 1 (readFlagGroup f) := by
  intro s
  refine (readFlags_stable ⟨[], false, false, f⟩ s).bind_passing (fun items r => ?_) fun items r item r' h => ?_
  · simp only [head?_closed (show ':' ≠ ')' by decide)]
    refine .ite (fun h => ?_) fun _ => ?_
    · obtain ⟨rest, rfl⟩ := List.head?_eq_some_iff.mp h
      exact .stops (List.suffix_cons _ rest)
    · rcases r with _ | ⟨c, rest⟩
      · have hLeft {u r : List Char} {item : Item}
            (h : (if (')' :: u).isEmpty || (items.seen.isEmpty && !items.negated) then none
              else some (Item.setFlags items.flags, (')' :: u).tail)) = some (item, r)) : r <:+ u := by
          split at h
          · cases h
          · cases h
            exact List.suffix_refl _
        exact .wants (fun item r h => hLeft h) fun item r h => hLeft h
      · exact .ite (fun _ => .fails) fun _ => .stops (List.suffix_cons c rest)
  · dsimp only at h
    split at h
    · cases h
      exact List.suffix_refl _
    · split at h
      · cases h
      · cases h
        exact List.suffix_refl _

theorem readOpening_stable (f : Flags) : StableReader 1 (readOpening f) := by
  intro s
  refine (f.skip_stable s).bind fun _ r => ?_
  have hNamed (k : Nat) {p : List Char} (h : p <+: r) (hk : p.length = k) :
      Stable 1 r ((readGroupName (r.drop k)).bind fun (name, rest) => some (Item.enterNamed name, rest))
        ((readGroupName ((r ++ [')']).drop k)).bind fun (name, rest) => some (.enterNamed name, rest))
        ((readGroupName ((r ++ [')', '$']).drop k)).bind fun (name, rest) => some (.enterNamed name, rest)) := by
    obtain ⟨rest, rfl⟩ := h
    subst hk
    simp only [List.append_assoc, List.drop_left]
    exact ((readGroupName_stable rest).map Item.enterNamed).mono (List.suffix_append p rest)
  simp only [prefix_closed (show ')' ∉ ['?', 'P', '<'] by simp), prefix_closed (show ')' ∉ ['?', '<', '='] by simp),
    prefix_closed (show ')' ∉ ['?', '<', '!'] by simp), prefix_closed (show ')' ∉ ['?', '<'] by simp),
    head?_closed (show '?' ≠ ')' by decide)]
  refine .ite (fun h => hNamed 3 h rfl) fun _ => .ite (fun _ => .fails) fun _ => .ite (fun _ => .fails) fun _ => ?_
  refine .ite (fun h => hNamed 2 h rfl) fun _ => .ite (fun h => ?_) fun _ => .stops (List.suffix_refl r)
  exact .ofTail (readFlagGroup_stable f) h

theorem readItem_stable (f : Flags) (c : Char) {s : List Char}
    (hOpen : ∀ rest, c = '\\' → s = 'b' :: rest → ¬BraceLeftOpen f rest) :
    Stable 1 s (readItem f c s) (readItem f c (s ++ [')'])) (readItem f c (s ++ [')', '$'])) := by
  unfold readItem
  split
  · exact readOpening_stable f s
  · exact .stops (List.suffix_refl s)
  · exact .stops (List.suffix_refl s)
  · exact (readSet_stable f s).map fun item => Item.pattern (.chars item.set item.levels)
  · exact (dropLazy_stable 1 s).map fun _ => Item.repeated 0 (some 1)
  · exact (dropLazy_stable 1 s).map fun _ => Item.repeated 0 none
  · exact (dropLazy_stable 1 s).map fun _ => Item.repeated 1 none
  · exact (readBounds_stable f s).map fun bounds => Item.repeated bounds.1 bounds.2
  · exact (readEscape_stable f fun rest hs => hOpen rest rfl hs).bind fun e r => .found (escapePattern? f e) Item.pattern r
  · exact .found (anyChar f) (fun set => Item.pattern (.chars set 0)) s
  · exact .stops (List.suffix_refl s)
  · exact .stops (List.suffix_refl s)
  · exact .found (literalPattern? f ⟨_, false⟩) Item.pattern s

end TemplateQuery.Pattern
