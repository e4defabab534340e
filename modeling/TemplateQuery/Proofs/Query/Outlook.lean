import TemplateQuery.Proofs.Query.Following

/-!
# What more text can change

A reader has read the beginning of a text. The rest of the text may leave the reading as it is or change it, and where the
text ended too early some rest may complete it. An outlook says which of these holds, whatever the rest is. Outlooks are
put together as readers are: from the outlook of a first reader and that of what comes after it follows the outlook of
both, one after the other.
-/
namespace TemplateQuery.Query

open Text (isBlank skipBlank)

/-! ## Endings -/

/-- The text ended where something had to come. -/
def Fault.isEnd : Fault → Bool
  | .expected _ [] => true
  | _ => false

/-- White space apart, there is nothing more or something of the given kind. -/
def EndsIn (closers rest : List Char) : Prop := ∀ c ∈ (skipBlank rest).head?, c ∈ closers

/-- What closes an item of a list or separates it from the next one. -/
def itemClosers : List Char := [')', ']', ',']

theorem EndsIn.mono {closers closers' rest : List Char} (h : EndsIn closers rest) (hSub : closers ⊆ closers') :
    EndsIn closers' rest := fun c hc => hSub (h c hc)

theorem endsIn_nil (closers : List Char) : EndsIn closers [] := by
  rintro c ⟨⟩

theorem endsIn_of_skipBlank {closers s rest : List Char} (h : skipBlank s = skipBlank rest) (hRest : EndsIn closers rest) :
    EndsIn closers s := by
  rw [EndsIn, h]
  exact hRest

/-- What ends a text continues no run of characters that are neither white space nor closing. -/
theorem EndsIn.stops {closers : List Char} {p : Char → Bool} (hp : ∀ c, p c = true → isBlank c = false ∧ c ∉ closers)
    {rest : List Char} (h : EndsIn closers rest) : ∀ c ∈ rest.head?, p c = false := by
  cases rest with
  | nil => simp
  | cons c rest =>
    rintro d ⟨⟩
    rw [Bool.eq_false_iff]
    intro hc
    obtain ⟨hBlank, hCloser⟩ := hp c hc
    refine hCloser (h c ?_)
    rw [Text.skipBlank_cons hBlank]
    rfl

theorem not_mem_of_isNameChar {closers : List Char} (hClosers : ∀ c ∈ closers, isNameChar c = false) (c : Char)
    (hc : isNameChar c = true) : isBlank c = false ∧ c ∉ closers := by
  refine ⟨isBlank_of_isNameChar hc, fun hCloser => ?_⟩
  rw [hClosers c hCloser] at hc
  cases hc

theorem EndsIn.noName {closers rest : List Char} (hClosers : ∀ c ∈ closers, isNameChar c = false)
    (h : EndsIn closers rest) : startsWithNameChar rest = false :=
  startsWithNameChar_eq_false.2 (h.stops (not_mem_of_isNameChar hClosers))

theorem itemClosers_noName : ∀ c ∈ itemClosers, isNameChar c = false := forall_mem_of_all (by decide)

/-! ## Room -/

/-- How deep a reader may nest and how often it may go on. -/
structure Room where
  depth : Nat
  more : Nat

/-- There is room for a text if there is for a step at each of its characters. -/
structure Room.Holds (room : Room) (s : List Char) : Prop where
  depth : s.length ≤ room.depth
  more : s.length ≤ room.more

theorem Room.Holds.shorter {room : Room} {s r more : List Char} (h : room.Holds (s ++ more)) (hr : r.length ≤ s.length) :
    room.Holds (r ++ more) := by
  obtain ⟨hDepth, hMore⟩ := h
  rw [List.length_append] at hDepth hMore
  constructor <;> simp only [List.length_append] <;> omega

theorem Room.Holds.of_append {room : Room} {w s : List Char} (h : room.Holds (w ++ s)) : room.Holds s := by
  obtain ⟨hDepth, hMore⟩ := h
  rw [List.length_append] at hDepth hMore
  constructor <;> omega

/-- Behind a character there is room for one step less. -/
theorem Room.Holds.step {room : Room} {w s : List Char} (hw : w ≠ []) (h : room.Holds (w ++ s)) :
    (∃ depth, room.depth = depth + 1 ∧ Room.Holds ⟨depth, room.more⟩ s) ∧
      ∃ more, room.more = more + 1 ∧ Room.Holds ⟨room.depth, more⟩ s := by
  have hPositive := List.length_pos_of_ne_nil hw
  obtain ⟨hDepth, hMore⟩ := h
  rw [List.length_append] at hDepth hMore
  constructor
  · exact ⟨room.depth - 1, by omega, by dsimp only; omega, by dsimp only; omega⟩
  · exact ⟨room.more - 1, by omega, by dsimp only; omega, by dsimp only; omega⟩

theorem Room.Holds.exists_more {room : Room} {s : List Char} (hs : s ≠ []) (h : room.Holds s) :
    ∃ more, room.more = more + 1 := by
  have hPositive := Nat.lt_of_lt_of_le (List.length_pos_of_ne_nil hs) h.more
  exact ⟨room.more - 1, by omega⟩

/-! ## Outlooks -/

section Outlooks

variable {α β : Type} {stops stops' : List Char} {R : Room → Reading α} {s : List Char}

/-- With some text added, one value is read up to whatever ends an item. -/
def Completes (R : Room → Reading α) (s more : List Char) : Prop :=
  ∃ x, ∀ room rest, room.Holds (s ++ (more ++ rest)) → EndsIn itemClosers rest →
    ∃ r, R room (s ++ (more ++ rest)) = .ok (x, r) ∧ skipBlank r = skipBlank rest

/-- What a reader makes of a text and of what may come after it. -/
inductive Outlook (stops : List Char) (R : Room → Reading α) (s : List Char) : Prop where
  /-- A value is read, and more text makes no difference to it. -/
  | settled (x : α) (r : List Char) (shorter : r.length ≤ s.length)
      (reads : ∀ room more, room.Holds (s ++ more) → R room (s ++ more) = .ok (x, r ++ more))
  /-- A value is read to the end of the text, and more text may go on with it. -/
  | pending (completes : Completes R s [])
  /-- A value is read up to a sign that more text may make a part of it. -/
  | stopped (x : α)
      (stops_at : ∀ room, room.Holds s → ∃ r c u, R room s = .ok (x, r) ∧ skipBlank r = c :: u ∧ c ∈ stops)
  /-- The text ended too early, and some text completes it. -/
  | ended (ends : ∀ room, room.Holds s → ∃ fault, R room s = .error fault ∧ fault.isEnd = true) (more : List Char)
      (completes : Completes R s more)
  /-- There is something wrong in the text. -/
  | refused (refuses : ∀ room, room.Holds s → ∃ fault, R room s = .error fault ∧ fault.isEnd = false)

theorem Completes.ok {more : List Char} (h : Completes R s more) :
    ∃ x, ∀ room, room.Holds (s ++ more) → ∃ r, R room (s ++ more) = .ok (x, r) ∧ skipBlank r = [] := by
  obtain ⟨x, h⟩ := h
  refine ⟨x, fun room hRoom => ?_⟩
  obtain ⟨r, hRead, hLeft⟩ := h room [] (by simpa using hRoom) (endsIn_nil _)
  exact ⟨r, by simpa using hRead, hLeft⟩

section Transfer

variable {R' : Room → Reading α} {s' w : List Char}

theorem Completes.transfer {more : List Char} (h : Completes R s more)
    (hRead : ∀ room t, room.Holds (s' ++ (more ++ t)) → ∃ room', room'.Holds (s ++ (more ++ t)) ∧
      R' room (s' ++ (more ++ t)) = R room' (s ++ (more ++ t))) :
    Completes R' s' more := by
  obtain ⟨x, h⟩ := h
  refine ⟨x, fun room rest hRoom hRest => ?_⟩
  obtain ⟨room', hRoom', hRead'⟩ := hRead room rest hRoom
  rw [hRead']
  exact h room' rest hRoom' hRest

/-- What one reader makes of a text is what another one makes of a text that is no longer, whatever comes after both. -/
theorem Outlook.transfer (h : Outlook stops R s) (hLength : s.length ≤ s'.length)
    (hRead : ∀ room t, room.Holds (s' ++ t) → ∃ room', room'.Holds (s ++ t) ∧ R' room (s' ++ t) = R room' (s ++ t)) :
    Outlook stops R' s' := by
  have hNow (room : Room) (hRoom : room.Holds s') : ∃ room', room'.Holds s ∧ R' room s' = R room' s := by
    simpa using hRead room [] (by simpa using hRoom)
  cases h with
  | settled x r shorter reads =>
    refine .settled x r (Nat.le_trans shorter hLength) fun room more hRoom => ?_
    obtain ⟨room', hRoom', hRead'⟩ := hRead room more hRoom
    rw [hRead', reads room' more hRoom']
  | pending completes => exact .pending (completes.transfer fun room t => hRead room ([] ++ t))
  | stopped x stops_at =>
    refine .stopped x fun room hRoom => ?_
    obtain ⟨room', hRoom', hRead'⟩ := hNow room hRoom
    rw [hRead']
    exact stops_at room' hRoom'
  | ended ends more completes =>
    refine .ended (fun room hRoom => ?_) more (completes.transfer fun room t => hRead room (more ++ t))
    obtain ⟨room', hRoom', hRead'⟩ := hNow room hRoom
    rw [hRead']
    exact ends room' hRoom'
  | refused refuses =>
    refine .refused fun room hRoom => ?_
    obtain ⟨room', hRoom', hRead'⟩ := hNow room hRoom
    rw [hRead']
    exact refuses room' hRoom'

/-- A reader that leaves the text to another one after some characters. -/
theorem Outlook.past (h : Outlook stops R s) (hRead : ∀ room t, R' room (w ++ (s ++ t)) = R room (s ++ t)) :
    Outlook stops R' (w ++ s) := by
  refine h.transfer (by simp) fun room t hRoom => ?_
  rw [List.append_assoc] at hRoom ⊢
  exact ⟨room, hRoom.of_append, hRead room t⟩

/-- A reader that goes on after some characters. -/
theorem Outlook.further (h : Outlook stops R s) (hw : w ≠ [])
    (hRead : ∀ depth more t, R' ⟨depth, more + 1⟩ (w ++ (s ++ t)) = R ⟨depth, more⟩ (s ++ t)) :
    Outlook stops R' (w ++ s) := by
  refine h.transfer (by simp) fun ⟨depth, more⟩ t hRoom => ?_
  rw [List.append_assoc] at hRoom ⊢
  obtain ⟨-, more, rfl, hHolds⟩ := hRoom.step hw
  exact ⟨⟨depth, more⟩, hHolds, hRead depth more t⟩

/-- A reader that leaves the text to a nested one after some characters. -/
theorem Outlook.deeper (h : Outlook stops R s) (hw : w ≠ [])
    (hRead : ∀ depth more t, R' ⟨depth + 1, more⟩ (w ++ (s ++ t)) = R ⟨depth, more⟩ (s ++ t)) :
    Outlook stops R' (w ++ s) := by
  refine h.transfer (by simp) fun ⟨depth, more⟩ t hRoom => ?_
  rw [List.append_assoc] at hRoom ⊢
  obtain ⟨⟨depth, rfl, hHolds⟩, -⟩ := hRoom.step hw
  exact ⟨⟨depth, more⟩, hHolds, hRead depth more t⟩

/-- A reader that may go on as often as its text is long. -/
theorem Outlook.of_length (h : Outlook stops R s)
    (hRead : ∀ room t, R' room (s ++ t) = R ⟨room.depth, (s ++ t).length⟩ (s ++ t)) : Outlook stops R' s :=
  h.transfer (Nat.le_refl _) fun room t hRoom =>
    ⟨⟨room.depth, (s ++ t).length⟩, ⟨hRoom.depth, Nat.le_refl _⟩, hRead room t⟩

end Transfer

theorem Outlook.mono (h : Outlook stops R s) (hSub : stops ⊆ stops') : Outlook stops' R s := by
  cases h with
  | settled x r shorter reads => exact .settled x r shorter reads
  | pending completes => exact .pending completes
  | stopped x stops_at =>
    refine .stopped x fun room hRoom => ?_
    obtain ⟨r, c, u, hRead, hLeft, hc⟩ := stops_at room hRoom
    exact ⟨r, c, u, hRead, hLeft, hSub hc⟩
  | ended ends more completes => exact .ended ends more completes
  | refused refuses => exact .refused refuses

theorem Outlook.of_error (fault : Fault) (h : ∀ room, R room s = .error fault) (hFault : fault.isEnd = false) :
    Outlook stops R s := .refused fun room _ => ⟨fault, h room, hFault⟩

/-! ## Runs of characters and white space -/

/-- A value that ends where a run of characters does: at the end of the text the run may go on. -/
theorem Outlook.of_run {p : Char → Bool} (hp : ∀ c, p c = true → isBlank c = false ∧ c ∉ itemClosers) {w r : List Char}
    {x : α} (h : ∀ room rest, (∀ c ∈ rest.head?, p c = false) → R room (w ++ rest) = .ok (x, rest))
    (hr : ∀ c ∈ r.head?, p c = false) : Outlook stops R (w ++ r) := by
  cases r with
  | nil =>
    refine .pending ⟨x, fun room rest _ hRest => ⟨rest, ?_, rfl⟩⟩
    simpa using h room rest (hRest.stops hp)
  | cons c r =>
    refine .settled x (c :: r) (by rw [List.length_append]; omega) fun room more _ => ?_
    rw [List.append_assoc]
    exact h room _ hr

theorem exists_blanks (s : List Char) : ∃ b ∈ blanks, s = b ++ skipBlank s := by
  induction s with
  | nil => exact ⟨[], nil_mem_blanks, rfl⟩
  | cons c s ih =>
    cases hc : isBlank c with
    | true =>
      obtain ⟨b, hb, hs⟩ := ih
      refine ⟨c :: b, List.forall_mem_cons.2 ⟨hc, hb⟩, ?_⟩
      rw [skipBlank, if_pos hc, List.cons_append, ← hs]
    | false =>
      refine ⟨[], nil_mem_blanks, ?_⟩
      rw [Text.skipBlank_cons hc, List.nil_append]

theorem skipBlank_append_of_nil (h : skipBlank s = []) (t : List Char) : skipBlank (s ++ t) = skipBlank t := by
  obtain ⟨b, hb, hs⟩ := exists_blanks s
  rw [hs, h, List.append_nil, Text.skipBlank_append hb]

theorem exists_blanks_cons {c : Char} {u : List Char} (h : skipBlank s = c :: u) :
    ∃ b ∈ blanks, s = b ++ c :: u ∧ isBlank c = false := by
  obtain ⟨b, hb, hs⟩ := exists_blanks s
  exact ⟨b, hb, h ▸ hs, Text.skipBlank_eq_cons h⟩

/-- The reader does not look at the white space in front. -/
def Skips (R : Room → Reading α) : Prop := ∀ room u, R room (skipBlank u) = R room u

theorem Skips.append (hSkips : Skips R) {b : List Char} (hb : b ∈ blanks) (room : Room) (u : List Char) :
    R room (b ++ u) = R room u := by
  rw [← hSkips room (b ++ u), Text.skipBlank_append hb, hSkips]

/-- White space in front can be left out. -/
theorem Outlook.of_skips (hSkips : Skips R) (hNil : Outlook stops R [])
    (hCons : ∀ c u, isBlank c = false → (c :: u).length ≤ s.length → Outlook stops R (c :: u)) : Outlook stops R s := by
  have hAny : Outlook stops R (skipBlank s) := by
    cases hSkip : skipBlank s with
    | nil => exact hNil
    | cons c u => exact hCons c u (Text.skipBlank_eq_cons hSkip) (hSkip ▸ Text.length_skipBlank_le s)
  obtain ⟨b, hb, hs⟩ := exists_blanks s
  rw [hs]
  exact hAny.past fun room t => hSkips.append hb room _

/-! ## One reader after another -/

/-- What comes next adds nothing where the text ends, an item is closed or one of the signs follows. -/
def Idle (stops : List Char) (K : Room → α → Reading β) : Prop :=
  ∀ x, ∃ y, ∀ room r, EndsIn (itemClosers ++ stops) r → ∃ r', K room x r = .ok (y, r') ∧ skipBlank r' = skipBlank r

/-- Two readers in a row. -/
def both (R : Room → Reading α) (K : Room → α → Reading β) (room : Room) : Reading β := fun s => do
  let (x, r) ← R room s
  K room x r

theorem Completes.both {K : Room → α → Reading β} (hIdle : Idle stops K) {more : List Char} (h : Completes R s more) :
    Completes (both R K) s more := by
  obtain ⟨x, h⟩ := h
  obtain ⟨y, hy⟩ := hIdle x
  refine ⟨y, fun room rest hRoom hRest => ?_⟩
  obtain ⟨r, hRead, hLeft⟩ := h room rest hRoom hRest
  have hEnds : EndsIn (itemClosers ++ stops) r := (endsIn_of_skipBlank hLeft hRest).mono (List.subset_append_left ..)
  obtain ⟨r', hNext, hLeft'⟩ := hy room r hEnds
  exact ⟨r', by simp [Query.both, hRead, hNext], hLeft'.trans hLeft⟩

/-- Where the first reader fails, so do both. -/
theorem both_fails {K : Room → α → Reading β} {isEnd : Bool}
    (h : ∀ room, room.Holds s → ∃ fault, R room s = .error fault ∧ fault.isEnd = isEnd) (room : Room)
    (hRoom : room.Holds s) :
    ∃ fault, both R K room s = .error fault ∧ fault.isEnd = isEnd := by
  obtain ⟨fault, hFault, hEnd⟩ := h room hRoom
  exact ⟨fault, by simp [both, hFault], hEnd⟩

/-- The outlook after a settled value is that of what comes next. -/
theorem Outlook.both_of_settled {K : Room → α → Reading β} {x : α} {r : List Char} (shorter : r.length ≤ s.length)
    (reads : ∀ room more, room.Holds (s ++ more) → R room (s ++ more) = .ok (x, r ++ more))
    (h : Outlook stops (fun room => K room x) r) : Outlook stops (both R K) s :=
  h.transfer shorter fun room more hRoom => ⟨room, hRoom.shorter shorter, by simp [both, reads room more hRoom]⟩

/-- A reader and then one that is idle where the first one may have stopped. -/
theorem Outlook.both {K : Room → α → Reading β} (h : Outlook stops R s) (hIdle : Idle stops K) (hSub : stops ⊆ stops')
    (hNext : ∀ x r c u, r.length ≤ s.length → skipBlank r = c :: u → Outlook stops' (fun room => K room x) r) :
    Outlook stops' (both R K) s := by
  cases h with
  | settled x r shorter reads =>
    refine Outlook.both_of_settled shorter reads ?_
    cases hLeft : skipBlank r with
    | nil =>
      -- Nothing is left but white space, so what comes next has nothing to do.
      obtain ⟨y, hy⟩ := hIdle x
      refine .pending ⟨y, fun room rest _ hRest => ?_⟩
      have hSkip : skipBlank (r ++ ([] ++ rest)) = skipBlank rest := skipBlank_append_of_nil hLeft rest
      obtain ⟨r', hRead, hLeft'⟩ :=
        hy room (r ++ ([] ++ rest)) ((endsIn_of_skipBlank hSkip hRest).mono (List.subset_append_left ..))
      exact ⟨r', hRead, hLeft'.trans hSkip⟩
    | cons c u => exact hNext x r c u shorter hLeft
  | pending completes => exact .pending (completes.both hIdle)
  | stopped x stops_at =>
    obtain ⟨y, hy⟩ := hIdle x
    refine .stopped y fun room hRoom => ?_
    obtain ⟨r, c, u, hRead, hLeft, hc⟩ := stops_at room hRoom
    have hEnds : EndsIn (itemClosers ++ stops) r := by
      intro d hd
      rw [hLeft] at hd
      obtain rfl : c = d := by simpa using hd
      exact List.mem_append_right itemClosers hc
    obtain ⟨r', hNow, hLeft'⟩ := hy room r hEnds
    exact ⟨r', c, u, by simp [Query.both, hRead, hNow], hLeft'.trans hLeft, hSub hc⟩
  | ended ends more completes => exact .ended (both_fails ends) more (completes.both hIdle)
  | refused refuses => exact .refused (both_fails refuses)

/-! ## Changed values -/

theorem idle_map (stops : List Char) (f : α → β) : Idle stops fun (_ : Room) x r => .ok (f x, r) :=
  fun x => ⟨f x, fun _ r _ => ⟨r, rfl, rfl⟩⟩

theorem Completes.map {more : List Char} (h : Completes R s more) (f : α → β) :
    Completes (fun room u => do
      let (x, r) ← R room u
      return (f x, r)) s more :=
  h.both (idle_map [] f)

/-- Something is done to the value that is read. -/
theorem Outlook.map (h : Outlook stops R s) (f : α → β) :
    Outlook stops (fun room u => do
      let (x, r) ← R room u
      return (f x, r)) s :=
  h.both (idle_map stops f) (List.Subset.refl _) fun x r _ _ _ _ =>
    .settled (f x) r (Nat.le_refl _) fun _ _ _ => rfl

/-! ## Closed and checked values -/

/-- What comes next must come up to a closing character. -/
structure Closing (closing : Char) (stops : List Char) (K : Room → α → Reading β) : Prop where
  ends : ∀ room x r, skipBlank r = [] → ∃ fault, K room x r = .error fault ∧ fault.isEnd = true
  closes : ∀ x, ∃ y, ∀ room r rest, skipBlank r = closing :: rest → K room x r = .ok (y, rest)
  refuses : ∀ room x r c u, skipBlank r = c :: u → c ∈ stops → ∃ fault, K room x r = .error fault ∧ fault.isEnd = false

/-- A reader and then one that closes what the first one has read. -/
theorem Outlook.close {K : Room → α → Reading β} {closing : Char} (hCloser : isBlank closing = false ∧ closing ∈ itemClosers)
    (h : Outlook stops R s) (hClosing : Closing closing stops K)
    (hNext : ∀ x r c u, r.length ≤ s.length → skipBlank r = c :: u → Outlook stops' (fun room => K room x) r) :
    Outlook stops' (Query.both R K) s := by
  have hEnds (rest : List Char) : EndsIn itemClosers (closing :: rest) := by
    intro c hc
    rw [Text.skipBlank_cons hCloser.1] at hc
    obtain rfl : closing = c := by simpa using hc
    exact hCloser.2
  have hCompletes {more : List Char} (h : Completes R s more) : Completes (Query.both R K) s (more ++ [closing]) := by
    obtain ⟨x, h⟩ := h
    obtain ⟨y, hy⟩ := hClosing.closes x
    refine ⟨y, fun room rest hRoom _ => ⟨rest, ?_, rfl⟩⟩
    simp only [List.append_assoc, List.cons_append, List.nil_append] at hRoom ⊢
    obtain ⟨r, hRead, hLeft⟩ := h room (closing :: rest) hRoom (hEnds rest)
    rw [Text.skipBlank_cons hCloser.1] at hLeft
    simp [Query.both, hRead, hy room r rest hLeft]
  cases h with
  | settled x r shorter reads =>
    refine Outlook.both_of_settled shorter reads ?_
    cases hLeft : skipBlank r with
    | nil =>
      obtain ⟨y, hy⟩ := hClosing.closes x
      refine .ended (fun room _ => hClosing.ends room x r hLeft) [closing] ⟨y, fun room rest _ _ => ⟨rest, ?_, rfl⟩⟩
      apply hy
      rw [List.singleton_append, skipBlank_append_of_nil hLeft, Text.skipBlank_cons hCloser.1]
    | cons c u => exact hNext x r c u shorter hLeft
  | pending completes =>
    obtain ⟨x, hRead⟩ := completes.ok
    refine .ended (fun room hRoom => ?_) ([] ++ [closing]) (hCompletes completes)
    obtain ⟨r, hRead, hLeft⟩ := hRead room (by simpa using hRoom)
    obtain ⟨fault, hFault, hEnd⟩ := hClosing.ends room x r hLeft
    rw [List.append_nil] at hRead
    exact ⟨fault, by simp [Query.both, hRead, hFault], hEnd⟩
  | stopped x stops_at =>
    refine .refused fun room hRoom => ?_
    obtain ⟨r, c, u, hRead, hLeft, hc⟩ := stops_at room hRoom
    obtain ⟨fault, hFault, hEnd⟩ := hClosing.refuses room x r c u hLeft hc
    exact ⟨fault, by simp [Query.both, hRead, hFault], hEnd⟩
  | ended ends more completes => exact .ended (both_fails ends) (more ++ [closing]) (hCompletes completes)
  | refused refuses => exact .refused (both_fails refuses)

/-- A reader whose values are checked. It must not have found the text too short, since a completed value might not pass. -/
theorem Outlook.check (h : Outlook stops R s) (check : α → Except Fault β)
    (hNever : ∀ room fault, R room s = .error fault → fault.isEnd = false)
    (hCheck : ∀ x fault, check x = .error fault → fault.isEnd = false) :
    Outlook stops (Query.both R fun _ x r => do
      let y ← check x
      return (y, r)) s := by
  cases h with
  | settled x r shorter reads =>
    refine Outlook.both_of_settled shorter reads ?_
    cases hx : check x with
    | ok y => exact .settled y r (Nat.le_refl _) fun room more _ => rfl
    | error fault => exact .refused fun room _ => ⟨fault, rfl, hCheck x fault hx⟩
  | pending completes =>
    obtain ⟨x, hRead⟩ := completes
    cases hx : check x with
    | ok y =>
      refine .pending ⟨y, fun room rest hRoom hRest => ?_⟩
      obtain ⟨r, hRead, hLeft⟩ := hRead room rest hRoom hRest
      refine ⟨r, ?_, hLeft⟩
      rw [Query.both, hRead]
      simp [hx]
    | error fault =>
      refine .refused fun room hRoom => ⟨fault, ?_, hCheck x fault hx⟩
      obtain ⟨r, hRead, -⟩ := hRead room [] (by simpa using hRoom) (endsIn_nil _)
      simp only [List.append_nil] at hRead
      simp [Query.both, hRead, hx]
  | stopped x stops_at =>
    cases hx : check x with
    | ok y =>
      refine .stopped y fun room hRoom => ?_
      obtain ⟨r, c, u, hRead, hLeft⟩ := stops_at room hRoom
      exact ⟨r, c, u, by simp [Query.both, hRead, hx], hLeft⟩
    | error fault =>
      refine .refused fun room hRoom => ⟨fault, ?_, hCheck x fault hx⟩
      obtain ⟨r, c, u, hRead, -⟩ := stops_at room hRoom
      simp [Query.both, hRead, hx]
  | ended ends more completes =>
    refine .refused fun room hRoom => ?_
    obtain ⟨fault, hFault, hEnd⟩ := ends room hRoom
    rw [hNever room fault hFault] at hEnd
    cases hEnd
  | refused refuses => exact .refused (both_fails refuses)

end Outlooks

end TemplateQuery.Query
