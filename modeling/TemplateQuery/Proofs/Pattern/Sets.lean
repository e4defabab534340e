import Mathlib
import TemplateQuery.Proofs.Pattern.Escapes

/-!
# Bracketed sets and the text behind

A set that is closed again is read stably. A set that is left open is not closed by a closing text, which has no bracket:
it becomes a part of the set, and the set ends with the text as before.
-/
namespace TemplateQuery.Pattern

/-! ## Classes between colons -/

/-- Between colons, the name of a class, and what follows the second colon and a bracket. -/
def className (rest : List Char) : Option (List Char × List Char) :=
  match rest.dropWhile (· != ':') with
  | ':' :: ']' :: after => some (rest.takeWhile (· != ':'), after)
  | _ => none

theorem className_closed (rest : List Char) {u : List Char} (hu : Closes u) :
    className (rest ++ u) = (className rest).map fun (name, after) => (name, after ++ u) := by
  have hu' : ∀ c ∈ u, (c != ':') = true := by
    rcases hu with rfl | rfl <;> simp
  rcases span_append rest hu' with ⟨hDrop, hDrop'⟩ | ⟨c, after, hDrop, hDrop', hTake⟩
  · rw [className, className, hDrop, hDrop']
    rfl
  rw [className, className, hDrop, hDrop', hTake]
  by_cases hc : c = ':'
  · subst hc
    rcases after with _ | ⟨d, after⟩
    · rcases hu with rfl | rfl <;> rfl
    · by_cases hd : d = ']'
      · subst hd
        rfl
      · simp [hd]
  · simp [hc]

theorem className_suffix {rest name after : List Char} (h : className rest = some (name, after)) : after <:+ rest := by
  unfold className at h
  split at h
  next hDrop =>
    cases h
    have hSuffix : ':' :: ']' :: _ <:+ rest := hDrop ▸ List.dropWhile_suffix _
    exact (List.suffix_append [':', ']'] _).trans hSuffix
  next => cases h

/-- Whether a class is negated, and what follows the mark. -/
def classMark (s : List Char) : Bool × List Char :=
  match s with
  | '^' :: rest => (true, rest)
  | rest => (false, rest)

theorem classMark_closed (s : List Char) {u : List Char} (hu : Closes u) :
    classMark (s ++ u) = ((classMark s).1, (classMark s).2 ++ u) := by
  rcases s with _ | ⟨c, rest⟩
  · rcases hu with rfl | rfl <;> rfl
  · by_cases hc : c = '^'
    · subst hc
      rfl
    · simp [classMark, hc]

theorem classMark_suffix (s : List Char) : (classMark s).2 <:+ s := by
  unfold classMark
  split
  · exact List.suffix_cons _ _
  · exact List.suffix_refl s

theorem asciiClassAt?_cons (f : Flags) (rest : List Char) :
    asciiClassAt? f (':' :: rest) =
      (className (classMark rest).2).bind fun (name, after) => (asciiClass? (String.ofList name)).bind fun set =>
        some (.complementIf (classMark rest).1 (.foldedBy f.caseRule set), after) := by
  have hMark : asciiClassAt? f (':' :: rest) =
      (match (classMark rest).2.dropWhile (· != ':') with
        | ':' :: ']' :: after => do
          let set ← asciiClass? (String.ofList ((classMark rest).2.takeWhile (· != ':')))
          return (.complementIf (classMark rest).1 (.foldedBy f.caseRule set), after)
        | _ => none) := rfl
  rw [hMark, className]
  split
  · rfl
  · rfl

theorem asciiClassAt?_none (f : Flags) {s : List Char} (h : s.head? ≠ some ':') : asciiClassAt? f s = none := by
  unfold asciiClassAt?
  split <;> simp_all

/-- A closing text makes no difference to a class. -/
theorem asciiClassAt?_closed (f : Flags) {u : List Char} (hu : Closes u) (s : List Char) :
    asciiClassAt? f (s ++ u) = (asciiClassAt? f s).map fun (set, rest) => (set, rest ++ u) := by
  by_cases hHead : s.head? = some ':'
  · obtain ⟨rest, rfl⟩ := List.head?_eq_some_iff.mp hHead
    rw [List.cons_append, asciiClassAt?_cons, asciiClassAt?_cons, classMark_closed rest hu, className_closed _ hu]
    cases className (classMark rest).2 with
    | none => rfl
    | some found =>
      simp only [Option.map_some, Option.bind_some]
      cases asciiClass? (String.ofList found.1) <;> rfl
  · have hClosed : (s ++ u).head? ≠ some ':' := by
      rcases hu with rfl | rfl <;> rwa [ne_eq, head?_closed (by decide)]
    rw [asciiClassAt?_none f hHead, asciiClassAt?_none f hClosed]
    rfl

theorem asciiClassAt?_suffix {f : Flags} {s r : List Char} {set : CharSet} (h : asciiClassAt? f s = some (set, r)) :
    r <:+ s := by
  by_cases hHead : s.head? = some ':'
  · obtain ⟨rest, rfl⟩ := List.head?_eq_some_iff.mp hHead
    rw [asciiClassAt?_cons] at h
    obtain ⟨⟨name, after⟩, hName, hSet⟩ := Option.bind_eq_some_iff.mp h
    obtain ⟨set', -, hEq⟩ := Option.bind_eq_some_iff.mp hSet
    cases hEq
    exact ((className_suffix hName).trans (classMark_suffix rest)).trans (List.suffix_cons _ rest)
  · rw [asciiClassAt?_none f hHead] at h
    cases h

/-! ## Opening brackets -/

theorem takeHyphens_cons (f : Flags) (n : Nat) (c : Char) (rest : List Char) :
    takeHyphens f (n + 1) (c :: rest) =
      if c = '-' then (.flat (.single '-') :: (takeHyphens f n (f.skip rest)).1, (takeHyphens f n (f.skip rest)).2)
      else ([], c :: rest) := by
  by_cases hc : c = '-'
  · subst hc
    rfl
  · rw [if_neg hc]
    simp [takeHyphens, hc]

theorem takeHyphens_stable (f : Flags) (passed : Nat) : StableWithFuel passed fun n s => some (takeHyphens f n s) := by
  refine stableWithFuel_of_step rfl fun n n₁ n₂ s ih => ?_
  cases s with
  | nil => exact .stops List.nil_suffix
  | cons c rest =>
    simp only [takeHyphens_cons, List.cons_append]
    split
    · apply Stable.mono _ (List.suffix_cons c rest)
      have hRest := Stable.skip_fuel (fun n s => some (takeHyphens f n s)) f (fun n => by cases n <;> rfl)
        fun r (hr : r.length ≤ rest.length) => ih r (Nat.lt_succ_of_le hr)
      exact hRest.map (SetItem.flat (.single '-') :: ·)
    · exact .stops (List.suffix_refl _)

/-- The frames and the items of a set that is being read, and the text that is left. -/
def SetState.parts (state : SetState) : (List SetFrame × List SetItem) × List Char :=
  ((state.frames, state.items), state.rest)

/-- Whether a set is negated, and what follows the mark. -/
def setMark (f : Flags) (s : List Char) : Bool × List Char :=
  match s with
  | '^' :: rest => (true, f.skip rest)
  | s => (false, s)

theorem setMark_eq (f : Flags) (s : List Char) :
    setMark f s = if s.head? = some '^' then (true, f.skip s.tail) else (false, s) := by
  rcases s with _ | ⟨c, rest⟩
  · rfl
  · by_cases hc : c = '^' <;> simp [setMark, hc]

/-- A closing bracket counts as a member if it is the first one. -/
def firstBracket (f : Flags) (items : List SetItem) (s : List Char) : List SetItem × List Char :=
  match items, s with
  | [], ']' :: rest => ([SetItem.flat (.single ']')], f.skip rest)
  | items, s => (items, s)

theorem firstBracket_eq (f : Flags) (items : List SetItem) (s : List Char) :
    firstBracket f items s =
      if items.isEmpty ∧ s.head? = some ']' then ([SetItem.flat (.single ']')], f.skip s.tail) else (items, s) := by
  rcases items with _ | ⟨item, items⟩
  · rcases s with _ | ⟨c, rest⟩
    · rfl
    · by_cases hc : c = ']' <;> simp [firstBracket, hc]
  · simp [firstBracket]

theorem openSet_eq (f : Flags) (state : SetState) (s : List Char) :
    (openSet f state s).map SetState.parts =
      (some ((), f.skip s)).bind fun (_, s) => (some (setMark f s)).bind fun (negated, s) =>
      (some (takeHyphens f s.length s)).bind fun (items, s) => (some (firstBracket f items s)).bind fun (items, s) =>
      if s.isEmpty then none else some ((.bracket negated state.items :: state.frames, items), s) := by
  have hOpen : openSet f state s =
      let mark := setMark f (f.skip s)
      let hyphens := takeHyphens f mark.2.length mark.2
      let first := firstBracket f hyphens.1 hyphens.2
      if first.2.isEmpty then none
      else some ⟨.bracket mark.1 state.items :: state.frames, first.1, first.2⟩ := rfl
  rw [hOpen]
  simp only [Option.bind_some]
  split <;> rfl

theorem setMark_stable (f : Flags) (passed : Nat) : StableReader passed fun s => some (setMark f s) := by
  intro s
  simp only [setMark_eq, apply_ite some, head?_closed (show '^' ≠ ')' by decide)]
  refine .ite (fun h => ?_) fun _ => .stops (List.suffix_refl s)
  exact (Stable.ofTail f.skip_stable h).map fun _ => true

theorem firstBracket_stable (f : Flags) (passed : Nat) (items : List SetItem) :
    StableReader passed fun s => some (firstBracket f items s) := by
  intro s
  simp only [firstBracket_eq, apply_ite some, head?_closed (show ']' ≠ ')' by decide)]
  refine .ite (fun h => ?_) fun _ => .stops (List.suffix_refl s)
  exact (Stable.ofTail f.skip_stable h.2).map fun _ => [SetItem.flat (.single ']')]

/-- A bracket is opened if anything at all follows it. -/
theorem openSet_stable (f : Flags) (state : SetState) : StableReader 0 fun s => (openSet f state s).map SetState.parts := by
  intro s
  simp only [openSet_eq]
  refine (f.skip_stable s).bind fun _ r => (setMark_stable f 0 r).bind fun negated r => ?_
  refine (takeHyphens_stable f 0 le_rfl (by simp) (by simp)).bind fun items r => ?_
  refine (firstBracket_stable f 0 items r).bind fun items r => ?_
  cases r with
  | nil => exact .wanted
  | cons c rest => exact .stops (List.suffix_refl _)

/-! ## Members and items -/

/-- A member of a set. Inside of brackets, an assertion is none. -/
def readSetMember (f : Flags) (s : List Char) : Option (Escape × List Char) :=
  (readMember f s).bind fun
    | (.look _, _) => none
    | read => some read

/-- The set of the characters from one member to another. -/
def memberRange? (f : Flags) : Escape → Escape → Option CharSet
  | .literal first, .literal last => rangeSet? f first last
  | _, _ => none

theorem bind_readSetMember {β : Type} (f : Flags) (s : List Char) {k : Escape × List Char → Option β}
    (hLook : ∀ a r, k (.look a, r) = none) : (readSetMember f s).bind k = (readMember f s).bind k := by
  rw [readSetMember, Option.bind_assoc]
  congr 1
  funext read
  obtain ⟨_ | a | _, r⟩ := read
  · rfl
  · exact (hLook a r).symm
  · rfl

/-- What follows the first member of an item: the second one, if the item is a range. -/
def readItemFrom (f : Flags) (first : Escape) (s : List Char) : Option (CharSet × List Char) :=
  if s.isEmpty then none
  else if s.head? = some '-' ∧ ¬(f.peekAfter s.tail = some ']' ∨ f.peekAfter s.tail = some '-') then
    (some ((), f.skip s.tail)).bind fun (_, r) => (readSetMember f r).bind fun (last, rest) =>
      (memberRange? f first last).bind fun set => some (set, rest)
  else (memberSet? f first).bind fun set => some (set, s)

theorem readItemFrom_look (f : Flags) (a : Assertion) (s : List Char) : readItemFrom f (.look a) s = none := by
  simp [readItemFrom, memberRange?, memberSet?]

theorem readSetItem_eq (f : Flags) (s : List Char) :
    readSetItem f s = (readSetMember f s).bind fun (first, rest) => (some ((), f.skip rest)).bind fun (_, rest) =>
      readItemFrom f first rest := by
  rw [bind_readSetMember f s fun a r => readItemFrom_look f a _, readSetItem]
  congr 1
  funext read
  obtain ⟨first, rest⟩ := read
  simp only [Option.bind_some, readItemFrom]
  have hRange (r : List Char) :
      ((readSetMember f r).bind fun (last, rest) => (memberRange? f first last).bind fun set => some (set, rest)) =
        (readMember f r).bind fun (last, rest) => (memberRange? f first last).bind fun set => some (set, rest) :=
    bind_readSetMember f r fun a r => by cases first <;> rfl
  rw [hRange]
  generalize f.skip rest = r
  split
  · rfl
  next after =>
    by_cases hPeek : f.peekAfter after = some ']' ∨ f.peekAfter after = some '-'
    · simp [hPeek]
    · rw [if_neg hPeek, if_neg (by simp), if_pos ⟨rfl, hPeek⟩]
      show (readMember f (f.skip after)).bind _ = (readMember f (f.skip after)).bind _
      congr 1
      funext read
      obtain ⟨last, rest⟩ := read
      cases first <;> cases last <;> rfl
  next hNil hHyphen =>
    have hHead : r.head? ≠ some '-' := by
      intro h
      obtain ⟨after, rfl⟩ := List.head?_eq_some_iff.mp h
      exact hHyphen after rfl
    rw [if_neg (by simpa using hNil), if_neg fun h => hHead h.1]
    rfl

theorem readSetMember_escape (f : Flags) (rest : List Char) :
    readSetMember f ('\\' :: rest) = (readEscape f rest).bind fun
      | (.look _, _) => none
      | read => some read := rfl

theorem readSetMember_plain (f : Flags) {c : Char} (hc : c ≠ '\\') (rest : List Char) :
    readSetMember f (c :: rest) = some (.literal ⟨c, false⟩, rest) := by
  simp [readSetMember, readMember]

theorem readSetMember_boundary (f : Flags) (rest : List Char) : readSetMember f ('\\' :: 'b' :: rest) = none := by
  rw [readSetMember_escape, readEscape_boundary]
  cases readBoundary f rest <;> rfl

theorem readSetMember_stable (f : Flags) (s : List Char) :
    Stable 1 s.tail (readSetMember f s) (readSetMember f (s ++ [')'])) (readSetMember f (s ++ [')', '$'])) := by
  rcases s with _ | ⟨c, rest⟩
  · exact .wanted
  simp only [List.cons_append, List.tail_cons]
  by_cases hc : c = '\\'
  · subst hc
    by_cases hBoundary : rest.head? = some 'b'
    · obtain ⟨rest, rfl⟩ := List.head?_eq_some_iff.mp hBoundary
      simp only [List.cons_append, readSetMember_boundary]
      exact .fails
    · simp only [readSetMember_escape]
      have hEscape := readEscape_stable f (s := rest) fun r hr => absurd (hr ▸ rfl) hBoundary
      refine hEscape.bind fun e r => ?_
      cases e with
      | look a => exact .fails
      | literal l => exact .stops (List.suffix_refl r)
      | set members => exact .stops (List.suffix_refl r)
  · simp only [readSetMember_plain f hc]
    exact .stops (List.suffix_refl rest)

theorem peekAfterSpace_closed (marked : Bool) (s u : List Char) :
    peekAfterSpace marked (s ++ ')' :: u) = (peekAfterSpace marked s).or (some ')') := by
  induction s generalizing marked with
  | nil => rfl
  | cons c rest ih =>
    simp only [List.cons_append, peekAfterSpace]
    split
    · exact ih marked
    · split
      · exact ih true
      · rfl

theorem peekAfter_closed (f : Flags) {c : Char} (hc : c ≠ ')') (s u : List Char) :
    f.peekAfter (s ++ ')' :: u) = some c ↔ f.peekAfter s = some c := by
  have hPeek : f.peekAfter (s ++ ')' :: u) = (f.peekAfter s).or (some ')') := by
    unfold Flags.peekAfter
    split
    · exact peekAfterSpace_closed false s u
    · cases s <;> rfl
  rw [hPeek]
  cases f.peekAfter s <;> simp [hc.symm]

/-- An item of a set is read as before, if something follows it. -/
theorem readSetItem_stable (f : Flags) (s : List Char) :
    Stable 0 s.tail (readSetItem f s) (readSetItem f (s ++ [')'])) (readSetItem f (s ++ [')', '$'])) := by
  simp only [readSetItem_eq]
  refine (readSetMember_stable f s).weaken.bind fun first r => (f.skip_stable r).bind fun _ r => ?_
  cases r with
  | nil =>
    have hLeft {u r : List Char} {set : CharSet} (hu : Closes u)
        (h : readItemFrom f first u = some (set, r)) : r <:+ u := by
      have hEnd : readItemFrom f first u = (memberSet? f first).bind fun set => some (set, u) := by
        rcases hu with rfl | rfl <;> simp [readItemFrom]
      obtain ⟨set', -, hEq⟩ := Option.bind_eq_some_iff.mp (hEnd.symm.trans h)
      cases hEq
      exact List.suffix_refl _
    exact .wants (fun a r h => hLeft (.inl rfl) h) fun a r h => hLeft (.inr rfl) h
  | cons c rest =>
    simp only [readItemFrom, List.cons_append, List.isEmpty_cons, List.head?_cons, List.tail_cons,
      peekAfter_closed f (show ']' ≠ ')' by decide), peekAfter_closed f (show '-' ≠ ')' by decide)]
    refine .ite (fun h => absurd h (by decide)) fun _ => .ite (fun _ => ?_) fun _ => ?_
    · apply Stable.mono _ (List.suffix_cons c rest)
      refine (f.skip_stable rest).bind fun _ r => Stable.bind ?_ fun last r => .found _ id r
      exact ((readSetMember_stable f r).mono (List.tail_suffix r)).weaken
    · exact .found (memberSet? f first) id (c :: rest)

/-! ## Whole sets -/

/-- What a step makes of the frames and items of a set, if it does not close a bracket. -/
def setItemStep (f : Flags) (frames : List SetFrame) (items : List SetItem) (s : List Char) :
    Option ((List SetFrame × List SetItem) × List Char) :=
  if s.head? = some '[' then
    match asciiClassAt? f s.tail with
    | some (set, rest) =>
      if !f.unicode && !isAsciiSet set then none else some ((frames, items ++ [.flat set]), rest)
    | none => (openSet f ⟨frames, items, s⟩ s.tail).map SetState.parts
  else if ['&', '&'] <+: s then some (pushOperator .intersection ⟨frames, items, s⟩ (s.drop 2)).parts
  else if ['-', '-'] <+: s then some (pushOperator .difference ⟨frames, items, s⟩ (s.drop 2)).parts
  else if ['~', '~'] <+: s then some (pushOperator .symmetricDifference ⟨frames, items, s⟩ (s.drop 2)).parts
  else (readSetItem f s).bind fun (set, rest) => some ((frames, items ++ [.flat set]), rest)

theorem setStep_nil {f : Flags} {state : SetState} (h : f.skip state.rest = []) : setStep f state = none := by
  simp [setStep, h]

theorem setStep_close {f : Flags} {state : SetState} {rest : List Char} (h : f.skip state.rest = ']' :: rest) :
    setStep f state = closeSet f state rest := by
  simp [setStep, h]

theorem setStep_item {f : Flags} {frames : List SetFrame} {items : List SetItem} {s rest : List Char} {c : Char}
    (h : f.skip s = c :: rest) (hc : c ≠ ']') :
    setStep f ⟨frames, items, s⟩ = (setItemStep f frames items (c :: rest)).map fun read =>
      .inr ⟨read.1.1, read.1.2, read.2⟩ := by
  unfold setStep
  dsimp only
  rw [h]
  split
  next hEq => cases hEq
  next hEq =>
    cases hEq
    simp only [setItemStep, List.head?_cons, List.tail_cons, if_true]
    cases asciiClassAt? f rest with
    | some found =>
      dsimp only
      split <;> rfl
    | none =>
      have hOpen : openSet f ⟨frames, items, s⟩ rest = openSet f ⟨frames, items, '[' :: rest⟩ rest := rfl
      dsimp only
      rw [hOpen]
      cases openSet f ⟨frames, items, '[' :: rest⟩ rest <;> rfl
  next hEq =>
    cases hEq
    exact absurd rfl hc
  next hEq => cases hEq; rfl
  next hEq => cases hEq; rfl
  next hEq => cases hEq; rfl
  next hOpen hClose hAnd hMinus hTilde =>
    have hBracket : (c :: rest).head? ≠ some '[' := fun h => by
      obtain ⟨r, hr⟩ := List.head?_eq_some_iff.mp h
      exact hOpen r hr
    have hNot {d : Char} (h : ∀ r, c :: rest = d :: d :: r → False) : ¬[d, d] <+: c :: rest := by
      rintro ⟨r, hr⟩
      exact h r hr.symm
    rw [setItemStep, if_neg hBracket, if_neg (hNot hAnd), if_neg (hNot hMinus), if_neg (hNot hTilde)]
    cases readSetItem f (c :: rest) <;> rfl

/-- Beyond the text, there are a closing parenthesis and a dollar sign at most. -/
def Beyond (r : List Char) : Prop := r <:+ [')'] ∨ r <:+ [')', '$']

theorem setItemStep_stable (f : Flags) (frames : List SetFrame) (items : List SetItem) (c : Char) (rest : List Char) :
    Stable 0 rest (setItemStep f frames items (c :: rest)) (setItemStep f frames items (c :: (rest ++ [')'])))
      (setItemStep f frames items (c :: (rest ++ [')', '$']))) := by
  have hPrefix {d : Char} (hd : d ≠ ')') (u : List Char) : [d, d] <+: c :: (rest ++ ')' :: u) ↔ [d, d] <+: c :: rest :=
    prefix_closed (s := c :: rest) (by simp [hd.symm])
  have hOperator (op : SetOperator) {d : Char} (h : [d, d] <+: c :: rest) :
      Stable 0 rest (some (pushOperator op ⟨frames, items, c :: rest⟩ ((c :: rest).drop 2)).parts)
        (some (pushOperator op ⟨frames, items, c :: (rest ++ [')'])⟩ ((c :: (rest ++ [')'])).drop 2)).parts)
        (some (pushOperator op ⟨frames, items, c :: (rest ++ [')', '$'])⟩ ((c :: (rest ++ [')', '$'])).drop 2)).parts) := by
    obtain ⟨r, hr⟩ := h
    obtain ⟨rfl, rfl⟩ := List.cons.inj hr
    exact .stops (List.suffix_cons _ r)
  simp only [setItemStep, List.head?_cons, List.tail_cons, hPrefix (show '&' ≠ ')' by decide),
    hPrefix (show '-' ≠ ')' by decide), hPrefix (show '~' ≠ ')' by decide)]
  refine .ite (fun _ => ?_) fun _ => .ite (hOperator _) fun _ => .ite (hOperator _) fun _ => .ite (hOperator _) fun _ => ?_
  · rw [asciiClassAt?_closed f (.inl rfl), asciiClassAt?_closed f (.inr rfl)]
    cases hClass : asciiClassAt? f rest with
    | some found =>
      obtain ⟨set, r⟩ := found
      exact .ite (fun _ => .fails) fun _ => .stops (asciiClassAt?_suffix hClass)
    | none => exact openSet_stable f ⟨frames, items, c :: rest⟩ rest
  · have hItem := readSetItem_stable f (c :: rest)
    exact hItem.map fun set => (frames, items ++ [.flat set])

theorem beyond_cases {r : List Char} (h : Beyond r) : r = [] ∨ r = [')'] ∨ r = ['$'] ∨ r = [')', '$'] := by
  rcases h with h | h
  · rcases List.suffix_cons_iff.mp h with h | h
    · exact .inr (.inl h)
    · exact .inl (List.suffix_nil.mp h)
  · rcases List.suffix_cons_iff.mp h with h | h
    · exact .inr (.inr (.inr h))
    · rcases List.suffix_cons_iff.mp h with h | h
      · exact .inr (.inr (.inl h))
      · exact .inl (List.suffix_nil.mp h)

theorem Beyond.suffix {r r' : List Char} (h : Beyond r) (hr : r' <:+ r) : Beyond r' :=
  h.imp hr.trans hr.trans

theorem beyond_nil : Beyond [] := .inl List.nil_suffix

theorem setItemStep_plain (f : Flags) (frames : List SetFrame) (items : List SetItem) {c : Char} (hc : c = ')' ∨ c = '$')
    (rest : List Char) :
    setItemStep f frames items (c :: rest) =
      (readItemFrom f (.literal ⟨c, false⟩) (f.skip rest)).bind fun (set, r) =>
        some ((frames, items ++ [.flat set]), r) := by
  have hRead : readSetItem f (c :: rest) = readItemFrom f (.literal ⟨c, false⟩) (f.skip rest) := by
    rw [readSetItem_eq, readSetMember_plain f (by rintro rfl; simp at hc)]
    rfl
  rcases hc with rfl | rfl <;> simp [setItemStep, hRead]

theorem runSet_item {f : Flags} {frames : List SetFrame} {items : List SetItem} {s rest : List Char} {c : Char}
    (h : f.skip s = c :: rest) (hc : c ≠ ']') (n : Nat) :
    runSet f (n + 1) ⟨frames, items, s⟩ = (setItemStep f frames items (c :: rest)).bind fun ((frames, items), rest) =>
      runSet f n ⟨frames, items, rest⟩ := by
  rw [runSet, setStep_item h hc]
  cases setItemStep f frames items (c :: rest) <;> rfl

/-- No set is closed by what is beyond the text. -/
theorem runSet_beyond {f : Flags} {s r : List Char} (hs : f.skip s = r) (h : Beyond r) (n : Nat) (frames : List SetFrame)
    (items : List SetItem) : runSet f n ⟨frames, items, s⟩ = none := by
  have hLast {s : List Char} {c : Char} (hc : c = ')' ∨ c = '$') (hs : f.skip s = [c]) (n : Nat) (items : List SetItem) :
      runSet f (n + 1) ⟨frames, items, s⟩ = none := by
    rw [runSet_item hs (by rintro rfl; simp at hc), setItemStep_plain f frames items hc, f.skip_nil]
    rfl
  rcases n with _ | n
  · rfl
  rcases beyond_cases h with rfl | rfl | rfl | rfl
  · rw [runSet, setStep_nil hs]
  · exact hLast (.inl rfl) hs n items
  · exact hLast (.inr rfl) hs n items
  · rw [runSet_item hs (by decide), setItemStep_plain f frames items (.inl rfl), f.skip_dollar]
    cases hSet : memberSet? f (.literal ⟨')', false⟩) with
    | none => simp [readItemFrom, hSet]
    | some set =>
      have hItem : readItemFrom f (.literal ⟨')', false⟩) ['$'] = some (set, ['$']) := by simp [readItemFrom, hSet]
      rw [hItem]
      rcases n with _ | n
      · rfl
      · exact hLast (.inr rfl) f.skip_dollar n (items ++ [.flat set])

/-- Closing a bracket leaves the text behind it as it is. -/
theorem closeSet_eq (f : Flags) (frames : List SetFrame) (items : List SetItem) (s r : List Char) :
    closeSet f ⟨frames, items, s⟩ r = (closeSet f ⟨frames, items, []⟩ []).map
      (Sum.map (fun closed => (closed.1, r)) fun state => { state with rest := r }) := by
  simp only [closeSet]
  split
  · split
    · rfl
    · split <;> rfl
  · rfl

/-- Goes on with the frames and the items that were read. -/
def resumeSet (f : Flags) (n : Nat) (x : Option ((List SetFrame × List SetItem) × List Char)) :
    Option (SetItem × List Char) :=
  x.bind fun ((frames, items), rest) => runSet f n ⟨frames, items, rest⟩

theorem resumeSet_beyond {f : Flags} {x : Option ((List SetFrame × List SetItem) × List Char)} {u : List Char}
    (hu : Beyond u) (hx : ∀ a r, x = some (a, r) → r <:+ u) (n : Nat) : resumeSet f n x = none := by
  cases x with
  | none => rfl
  | some read =>
    obtain ⟨⟨frames, items⟩, r⟩ := read
    exact runSet_beyond rfl (hu.suffix ((f.skip_suffix r).trans (hx _ r rfl))) n frames items

theorem Stable.resumeSet {f : Flags} {n n₁ n₂ : Nat} {s : List Char}
    {x y z : Option ((List SetFrame × List SetItem) × List Char)} (h : Stable 0 s x y z)
    (hRun : ∀ frames items r, r <:+ s → Stable 1 r (runSet f n ⟨frames, items, r⟩) (runSet f n₁ ⟨frames, items, r ++ [')']⟩)
      (runSet f n₂ ⟨frames, items, r ++ [')', '$']⟩)) :
    Stable 1 s (resumeSet f n x) (resumeSet f n₁ y) (resumeSet f n₂ z) := by
  cases h with
  | @stops a r hSuffix => exact (hRun a.1 a.2 r hSuffix).mono hSuffix
  | @comment a =>
    have hEnd (n : Nat) : Pattern.resumeSet f n (some (a, [])) = none :=
      runSet_beyond f.skip_nil beyond_nil n a.1 a.2
    simp only [hEnd]
    exact .fails
  | wants hy hz =>
    rw [resumeSet_beyond (.inl (List.suffix_refl _)) hy, resumeSet_beyond (.inr (List.suffix_refl _)) hz]
    exact .fails

theorem runSet_stable (f : Flags) {n n₁ n₂ : Nat} {s : List Char} (hn : s.length < n) (hn₁ : s.length + 1 < n₁)
    (hn₂ : s.length + 2 < n₂) (frames : List SetFrame) (items : List SetItem) :
    Stable 1 s (runSet f n ⟨frames, items, s⟩) (runSet f n₁ ⟨frames, items, s ++ [')']⟩)
      (runSet f n₂ ⟨frames, items, s ++ [')', '$']⟩) := by
  induction n generalizing s n₁ n₂ frames items with
  | zero => cases hn
  | succ n ih =>
    obtain ⟨n₁, rfl⟩ := Nat.exists_eq_succ_of_ne_zero (Nat.ne_zero_of_lt hn₁)
    obtain ⟨n₂, rfl⟩ := Nat.exists_eq_succ_of_ne_zero (Nat.ne_zero_of_lt hn₂)
    rcases f.skip_cases s with ⟨r, hr, h, h₁, h₂⟩ | ⟨h, h₁, h₂⟩
    · rcases r with _ | ⟨c, rest⟩
      · rw [runSet_beyond h beyond_nil, runSet_beyond h₁ (.inl (List.suffix_refl _)),
          runSet_beyond h₂ (.inr (List.suffix_refl _))]
        exact .fails
      apply Stable.mono _ ((List.suffix_cons c rest).trans hr)
      have hLength : rest.length < s.length := hr.length_le
      by_cases hc : c = ']'
      · subst hc
        rw [runSet, runSet, runSet, setStep_close h, setStep_close h₁, setStep_close h₂, closeSet_eq f _ _ s,
          closeSet_eq f _ _ (s ++ [')']), closeSet_eq f _ _ (s ++ [')', '$'])]
        cases closeSet f ⟨frames, items, []⟩ [] with
        | none => exact .fails
        | some closed =>
          cases closed with
          | inl closed => exact .stops (List.suffix_refl rest)
          | inr state => exact ih (by omega) (by omega) (by omega) state.frames state.items
      · simp only [List.cons_append] at h₁ h₂
        rw [runSet_item h hc, runSet_item h₁ hc, runSet_item h₂ hc]
        refine (setItemStep_stable f frames items c rest).resumeSet fun frames items r hr => ?_
        have hShorter := hr.length_le
        exact ih (by omega) (by omega) (by omega) frames items
    · rw [runSet_beyond h beyond_nil, runSet_beyond h₁ beyond_nil, runSet_beyond h₂ beyond_nil]
      exact .fails

theorem readSet_eq (f : Flags) (s : List Char) :
    readSet f s = resumeSet f (s.length + 1) ((openSet f ⟨[], [], []⟩ s).map SetState.parts) := by
  have hOpen : openSet f ⟨[], [], s⟩ s = openSet f ⟨[], [], []⟩ s := rfl
  rw [readSet, hOpen]
  cases openSet f ⟨[], [], []⟩ s <;> rfl

theorem readSet_stable (f : Flags) : StableReader 1 (readSet f) := by
  intro s
  simp only [readSet_eq]
  refine (openSet_stable f ⟨[], [], []⟩ s).resumeSet fun frames items r hr => ?_
  have hShorter := hr.length_le
  exact runSet_stable f (by omega) (by simp; omega) (by simp; omega) frames items

end TemplateQuery.Pattern
