import TemplateQuery.Proofs.Query.Tokens

/-!
# What may follow

A reader reads a spelled value back if it takes exactly the spelling from the front of a text, white space apart,
provided that what follows cannot be taken for a continuation. What may follow differs from the operands of comparisons
to whole expressions and to the items of lists; a comma list is read back if its items are.
-/
namespace TemplateQuery.Query

open Text (isBlank skipBlank)

/-! ## What follows and how texts start -/

/-- A text that starts with a character of some kind, which is not white space. -/
def StartsWith (p : Char → Prop) (t : List Char) : Prop := ∃ c t', t = c :: t' ∧ isBlank c = false ∧ p c

theorem StartsWith.mono {p q : Char → Prop} {t : List Char} (h : StartsWith p t) (hpq : ∀ c, p c → q c) :
    StartsWith q t := by
  obtain ⟨c, t', rfl, hc, hp⟩ := h
  exact ⟨c, t', rfl, hc, hpq c hp⟩

theorem StartsWith.append {p : Char → Prop} {t : List Char} (h : StartsWith p t) (u : List Char) :
    StartsWith p (t ++ u) := by
  obtain ⟨c, t', rfl, hc⟩ := h
  exact ⟨c, t' ++ u, rfl, hc⟩

theorem StartsWith.skipBlank_eq {p : Char → Prop} {t : List Char} (h : StartsWith p t) : skipBlank t = t := by
  obtain ⟨c, t', rfl, hc, -⟩ := h
  exact Text.skipBlank_cons hc t'

/-- White space before a text that starts otherwise is skipped exactly. -/
theorem StartsWith.skipBlank_append {p : Char → Prop} {b t : List Char} (h : StartsWith p t) (hb : b ∈ blanks)
    (rest : List Char) : skipBlank (b ++ (t ++ rest)) = t ++ rest := by
  rw [Text.skipBlank_append hb, (h.append rest).skipBlank_eq]

theorem StartsWith.head?_ne {x : Char} {b t : List Char} (h : StartsWith (· ≠ x) t) (hb : b ∈ blanks)
    (hx : isBlank x = false) (rest : List Char) : ∀ c ∈ (b ++ (t ++ rest)).head?, c ≠ x := by
  intro c hc
  cases b with
  | nil =>
    obtain ⟨d, t', rfl, -, hd⟩ := h
    obtain rfl : d = c := by simpa using hc
    exact hd
  | cons d b =>
    obtain rfl : d = c := by simpa using hc
    rintro rfl
    have hBlank := hb d (List.mem_cons_self ..)
    rw [hx] at hBlank
    cases hBlank

/-- The first character that is not white space closes or separates something. -/
def Closes (closers : List Char) (rest : List Char) : Prop := ∃ b ∈ blanks, ∃ c ∈ closers, ∃ r, rest = b ++ c :: r

/-- Nothing continues a name, a number or a path. -/
structure EndsOperand (rest : List Char) : Prop where
  name : startsWithNameChar rest = false
  path : ∀ c ∈ (skipBlank rest).head?, c ≠ '.' ∧ c ≠ '['

structure EndsComparison (rest : List Char) : Prop extends EndsOperand rest where
  comparison : readComparison? (skipBlank rest) = none

structure EndsConjunction (rest : List Char) : Prop extends EndsComparison rest where
  conjunction : ∀ r, skipBlank rest ≠ '&' :: '&' :: r

structure EndsDisjunction (rest : List Char) : Prop extends EndsConjunction rest where
  disjunction : ∀ r, skipBlank rest ≠ '|' :: '|' :: r

theorem EndsOperand.point {rest : List Char} (h : EndsOperand rest) : rest.head? ≠ some '.' := by
  intro hPoint
  cases rest with
  | nil => cases hPoint
  | cons c rest =>
    obtain rfl : c = '.' := by simpa using hPoint
    have hSkip : skipBlank ('.' :: rest) = '.' :: rest := Text.skipBlank_cons (by decide) rest
    exact (h.path '.' (by rw [hSkip]; rfl)).1 rfl

theorem startsWithNameChar_gap {b : List Char} (hb : b ∈ gap) (s : List Char) :
    startsWithNameChar (b ++ s) = false := by
  obtain ⟨hBlank, hne⟩ := hb
  obtain ⟨c, b, rfl, hc⟩ := head?_of_all hne hBlank
  exact isNameChar_of_isBlank hc

theorem startsWithNameChar_blanks {b s : List Char} (hb : b ∈ blanks) (hs : startsWithNameChar s = false) :
    startsWithNameChar (b ++ s) = false := by
  by_cases hne : b = []
  · rw [hne, List.nil_append]
    exact hs
  · exact startsWithNameChar_gap ⟨hb, hne⟩ s

theorem endsOperand_gap {b s : List Char} (hb : b ∈ gap) (hs : ∀ c ∈ (skipBlank s).head?, c ≠ '.' ∧ c ≠ '[') :
    EndsOperand (b ++ s) := by
  refine ⟨startsWithNameChar_gap hb s, ?_⟩
  rw [Text.skipBlank_append hb.1]
  exact hs

/-- White space and then a sign that is part of no operand. -/
theorem endsOperand_blanks {b : List Char} (hb : b ∈ blanks) {c : Char} (hName : isNameChar c = false)
    (hBlank : isBlank c = false) (hPath : c ≠ '.' ∧ c ≠ '[') (s : List Char) : EndsOperand (b ++ c :: s) := by
  refine ⟨startsWithNameChar_blanks hb hName, ?_⟩
  rw [Text.skipBlank_append_cons hb hBlank]
  intro d hd
  obtain rfl : c = d := by simpa using hd
  exact hPath

theorem endsComparison_and {b : List Char} (hb : b ∈ blanks) (s : List Char) : EndsComparison (b ++ '&' :: '&' :: s) := by
  refine ⟨endsOperand_blanks hb (by decide) (by decide) (by decide) _, ?_⟩
  rw [Text.skipBlank_append_cons hb (by decide)]
  simp [readComparison?, afterKeyword?]

theorem endsConjunction_or {b : List Char} (hb : b ∈ blanks) (s : List Char) :
    EndsConjunction (b ++ '|' :: '|' :: s) := by
  have hSkip : skipBlank (b ++ '|' :: '|' :: s) = '|' :: '|' :: s := by
    rw [Text.skipBlank_append_cons hb (by decide)]
  refine ⟨⟨endsOperand_blanks hb (by decide) (by decide) (by decide) _, ?_⟩, ?_⟩
  · rw [hSkip]
    simp [readComparison?, afterKeyword?]
  · rw [hSkip]
    simp

theorem Closes.endsDisjunction {rest : List Char} (h : Closes [')', ']', ','] rest) : EndsDisjunction rest := by
  obtain ⟨b, hb, c, hc, r, rfl⟩ := h
  have hSigns : ∀ c ∈ [')', ']', ','],
      isNameChar c = false ∧ isBlank c = false ∧ (c ≠ '.' ∧ c ≠ '[') ∧ c ≠ '&' ∧ c ≠ '|' :=
    forall_mem_of_all (by decide)
  obtain ⟨hName, hBlank, hPath, hAnd, hOr⟩ := hSigns c hc
  have hSkip : skipBlank (b ++ c :: r) = c :: r := by
    rw [Text.skipBlank_append_cons hb hBlank]
  refine ⟨⟨⟨endsOperand_blanks hb hName hBlank hPath r, ?_⟩, ?_⟩, ?_⟩
  · rw [hSkip]
    simp only [List.mem_cons, List.not_mem_nil, or_false] at hc
    rcases hc with rfl | rfl | rfl <;> simp [readComparison?, afterKeyword?]
  · rw [hSkip]
    simp [hAnd]
  · rw [hSkip]
    simp [hOr]

/-! ## Reading back -/

/-- The reader takes the text `t` for `x` and leaves what follows, up to white space. -/
def Reads {α : Type} (reader : Reading α) (t : List Char) (x : α) (follows : List Char → Prop) : Prop :=
  ∀ s rest, skipBlank s = t ++ rest → follows rest →
    ∃ rest', reader s = .ok (x, rest') ∧ skipBlank rest' = skipBlank rest

theorem Reads.mono {α : Type} {reader : Reading α} {t : List Char} {x : α} {follows follows' : List Char → Prop}
    (h : Reads reader t x follows) (hFollows : ∀ rest, follows' rest → follows rest) : Reads reader t x follows' :=
  fun s rest hs hRest => h s rest hs (hFollows rest hRest)

theorem starts_of_commaSeparated {p : Char → Prop} {items : List (Language Char)} (hne : items ≠ [])
    (h : ∀ item ∈ items, ∀ u ∈ item, StartsWith p u) {t : List Char} (ht : t ∈ commaSeparated items) :
    StartsWith p t := by
  cases items with
  | nil => exact absurd rfl hne
  | cons item items =>
    cases items with
    | nil => exact h item (List.mem_singleton.2 rfl) t ht
    | cons item' items =>
      obtain ⟨u, hu, v, -, rfl⟩ := Language.mem_mul.1 ht
      exact (h item (List.mem_cons_self ..) u hu).append v

theorem closes_comma {b : List Char} (hb : b ∈ blanks) (s : List Char) : Closes [')', ']', ','] (b ++ ',' :: s) :=
  ⟨b, hb, ',', by decide, s, rfl⟩

/-- A list of items is read back if each item is. Each comma takes a character of the text, so that the text bounds the
number of commas; the items of a longer text need not be looked at. -/
theorem reads_commaList {α : Type} {item : Reading α} {spelling : α → Language Char} {xs : List α} (hne : xs ≠ [])
    {t : List Char} (ht : t ∈ commaSeparated (xs.map spelling))
    (hStarts : ∀ x ∈ xs, ∀ u ∈ spelling x, StartsWith (fun _ => True) u)
    (hItems : ∀ x ∈ xs, ∀ u ∈ spelling x, u.length ≤ t.length → Reads item u x (Closes [')', ']', ',']))
    {more : Nat} (hMore : t.length ≤ more) : Reads (commaList item more) t xs (Closes [')', ']']) := by
  induction xs generalizing t more with
  | nil => exact absurd rfl hne
  | cons x xs ih =>
    intro s rest hs hRest
    cases xs with
    | nil =>
      -- The last item: what closes the list is no comma, whether or not one would still be looked for.
      obtain ⟨b, hb, c, hc, r, rfl⟩ := hRest
      have hSigns : ∀ c ∈ [')', ']'], isBlank c = false ∧ c ≠ ',' ∧ c ∈ [')', ']', ','] :=
        forall_mem_of_all (by decide)
      have hSign := hSigns c hc
      have hItem := hItems x (List.mem_singleton.2 rfl) t ht (Nat.le_refl _)
      obtain ⟨rest', hRead, hLeft⟩ := hItem s _ hs ⟨b, hb, c, hSign.2.2, r, rfl⟩
      have hSkip : skipBlank (b ++ c :: r) = c :: r := by
        rw [Text.skipBlank_append_cons hb hSign.1]
      cases more with
      | zero => exact ⟨rest', by simp [commaList, hRead], hLeft⟩
      | succ more =>
        refine ⟨c :: r, ?_, by rw [hSkip, Text.skipBlank_cons hSign.1]⟩
        simp [commaList, hRead, hLeft, hSkip, hSign.2.1]
    | cons y ys =>
      simp only [List.map_cons, commaSeparated, Language.mem_mul, mem_word] at ht
      obtain ⟨u, hu, _, ⟨b, hb, _, ⟨_, rfl, _, ⟨b', hb', v, hv, rfl⟩, rfl⟩, rfl⟩, rfl⟩ := ht
      simp only [List.append_assoc, List.cons_append, List.nil_append, List.length_append, List.length_cons] at hs hMore hItems
      obtain ⟨more, rfl⟩ : ∃ m, more = m + 1 := ⟨more - 1, by omega⟩
      have hItem := hItems x (List.mem_cons_self ..) u hu (by omega)
      obtain ⟨rest', hRead, hLeft⟩ := hItem s _ hs (closes_comma hb _)
      rw [Text.skipBlank_append_cons hb (by decide)] at hLeft
      have hv' : v ∈ commaSeparated ((y :: ys).map spelling) := hv
      have hStart : StartsWith (fun _ => True) v := by
        refine starts_of_commaSeparated (by simp) (fun L hL w hw => ?_) hv'
        obtain ⟨z, hz, rfl⟩ := List.mem_map.1 hL
        exact hStarts z (List.mem_cons_of_mem x hz) w hw
      have hList := ih (List.cons_ne_nil y ys) hv' (fun z hz => hStarts z (List.mem_cons_of_mem x hz))
        (fun z hz w hw hLength => hItems z (List.mem_cons_of_mem x hz) w hw (by omega)) (show v.length ≤ more by omega)
      obtain ⟨rest'', hReadList, hLeft'⟩ := hList _ rest (hStart.skipBlank_append hb' rest) hRest
      exact ⟨rest'', by simp [commaList, hRead, hLeft, hReadList], hLeft'⟩

/-- A list of items is read back up to the character that closes it. -/
theorem commaList_closed {α : Type} {item : Reading α} {spelling : α → Language Char} {xs : List α} (hne : xs ≠ [])
    {t : List Char} (ht : t ∈ commaSeparated (xs.map spelling))
    (hStarts : ∀ x ∈ xs, ∀ u ∈ spelling x, StartsWith (fun _ => True) u)
    (hItems : ∀ x ∈ xs, ∀ u ∈ spelling x, u.length ≤ t.length → Reads item u x (Closes [')', ']', ',']))
    {closing : Char} (hClosing : closing ∈ [')', ']']) {s b r : List Char} (hb : b ∈ blanks)
    (hs : skipBlank s = t ++ (b ++ closing :: r)) :
    ∃ rest, commaList item s.length s = .ok (xs, rest) ∧ expectChar closing rest = .ok r := by
  have hMore : t.length ≤ s.length := by
    have hLength := Text.length_skipBlank_le s
    rw [hs, List.length_append] at hLength
    omega
  have hList := reads_commaList hne ht hStarts hItems hMore
  obtain ⟨rest, hRead, hLeft⟩ := hList s _ hs ⟨b, hb, closing, hClosing, r, rfl⟩
  have hSigns : ∀ c ∈ [')', ']'], isBlank c = false :=
    forall_mem_of_all (by decide)
  rw [Text.skipBlank_append_cons hb (hSigns closing hClosing)] at hLeft
  exact ⟨rest, hRead, by simp [expectChar, hLeft]⟩

/-- A list that may be empty starts with the closing character, or else it is read back up to that. -/
theorem commaList_or_closed {α : Type} {item : Reading α} {spelling : α → Language Char} {xs : List α}
    {closing : Char} (hClosing : closing ∈ [')', ']']) {t : List Char} (ht : t ∈ commaSeparated (xs.map spelling))
    (hStarts : ∀ x ∈ xs, ∀ u ∈ spelling x, StartsWith (· ≠ closing) u)
    (hItems : ∀ x ∈ xs, ∀ u ∈ spelling x, u.length ≤ t.length → Reads item u x (Closes [')', ']', ',']))
    {s b r : List Char} (hb : b ∈ blanks) (hs : skipBlank s = skipBlank (t ++ (b ++ closing :: r))) :
    xs = [] ∧ skipBlank s = closing :: r ∨
      ∃ c u rest, skipBlank s = c :: u ∧ c ≠ closing ∧ commaList item (c :: u).length (c :: u) = .ok (xs, rest) ∧
        expectChar closing rest = .ok r := by
  by_cases hne : xs = []
  · subst hne
    obtain rfl : t = [] := ht
    have hSigns : ∀ c ∈ [')', ']'], isBlank c = false :=
      forall_mem_of_all (by decide)
    rw [List.nil_append, Text.skipBlank_append_cons hb (hSigns closing hClosing)] at hs
    exact Or.inl ⟨rfl, hs⟩
  · have hStart : StartsWith (· ≠ closing) t := by
      refine starts_of_commaSeparated (by simpa using hne) (fun L hL w hw => ?_) ht
      obtain ⟨x, hx, rfl⟩ := List.mem_map.1 hL
      exact hStarts x hx w hw
    have hAny (x : α) (hx : x ∈ xs) (u : List Char) (hu : u ∈ spelling x) : StartsWith (fun _ => True) u :=
      (hStarts x hx u hu).mono fun _ _ => trivial
    have hSkip : skipBlank (skipBlank s) = t ++ (b ++ closing :: r) := by
      rw [Text.skipBlank_skipBlank, hs, (hStart.append _).skipBlank_eq]
    obtain ⟨rest, hRead, hClose⟩ := commaList_closed hne ht hAny hItems hClosing hb hSkip
    obtain ⟨c, u, rfl, -, hc⟩ := hStart
    rw [Text.skipBlank_skipBlank] at hSkip
    rw [hSkip, List.cons_append] at hRead
    exact Or.inr ⟨c, u ++ (b ++ closing :: r), rest, hSkip, hc, hRead, hClose⟩

end TemplateQuery.Query
