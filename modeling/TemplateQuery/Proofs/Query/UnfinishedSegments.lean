import TemplateQuery.Proofs.Query.Operands
import TemplateQuery.Proofs.Query.UnfinishedWords

/-!
# Unfinished segments

The outlook of the readers of lists, selectors, brackets and paths, over a reader of expressions with an outlook of its own.
A list goes on behind each comma, and a path behind each segment, so both are followed item by item.
-/
namespace TemplateQuery.Query

open Text (isBlank skipBlank)

variable {α : Type} {stops stops' : List Char}

/-! ## Closed lists -/

/-- A value that must be closed. -/
def closeWith (closing : Char) (x : α) : Reading α := fun r => do
  let rest ← expectChar closing r
  return (x, rest)

theorem closeWith_nil (closing : Char) (x : α) {r : List Char} (h : skipBlank r = []) :
    closeWith closing x r = .error (.expected (.char closing) []) := by
  simp [closeWith, expectChar, h]

theorem closeWith_cons (closing : Char) (x : α) {r u : List Char} {c : Char} (h : skipBlank r = c :: u) :
    closeWith closing x r = if c = closing then .ok (x, u) else .error (.expected (.char closing) (c :: u)) := by
  by_cases hc : c = closing <;> simp [closeWith, expectChar, h, hc]

theorem isBlank_of_closing {closing : Char} (hClosing : closing ∈ [')', ']']) :
    isBlank closing = false ∧ closing ∈ itemClosers ∧ closing ≠ ',' := by
  simp only [List.mem_cons, List.not_mem_nil, or_false] at hClosing
  rcases hClosing with rfl | rfl <;> decide

theorem closing_closeWith {closing : Char} (hClosing : closing ∈ [')', ']']) (hStops : ∀ c ∈ stops, c ∉ itemClosers) :
    Closing closing stops fun (_ : Room) (x : α) => closeWith closing x where
  ends _ x r h := ⟨_, closeWith_nil closing x h, rfl⟩
  closes x := ⟨x, fun _ r rest h => by simp [closeWith_cons closing x h]⟩
  refuses _ x r c u h hc := by
    refine ⟨.expected (.char closing) (c :: u), ?_, rfl⟩
    have hOther : c ≠ closing := by
      rintro rfl
      exact hStops c hc (isBlank_of_closing hClosing).2.1
    rw [closeWith_cons closing x h, if_neg hOther]

/-- What follows decides whether a value is closed. -/
theorem outlook_closeWith (closing : Char) (x : α) {r u : List Char} {c : Char} (h : skipBlank r = c :: u) :
    Outlook stops (fun _ => closeWith closing x) r := by
  obtain ⟨b, hb, rfl, hBlank⟩ := exists_blanks_cons h
  by_cases hc : c = closing
  · refine .settled x u (by simp; omega) fun _ t _ => ?_
    rw [List.append_assoc, List.cons_append, closeWith_cons closing x (Text.skipBlank_append_cons hb hBlank _), if_pos hc]
  · refine Outlook.of_error (.expected (.char closing) (c :: u)) (fun _ => ?_) rfl
    rw [closeWith_cons closing x h, if_neg hc]

/-- Items up to the character that closes them. -/
def closedList (item : Reading α) (closing : Char) (more : Nat) : Reading (List α) := fun s => do
  let (xs, rest) ← commaList item more s
  closeWith closing xs rest

/-- What follows an item: another one after a comma, or else what closes the list. -/
def listTail (item : Reading α) (closing : Char) : (more : Nat) → α → Reading (List α)
  | 0, x, r => closeWith closing [x] r
  | more + 1, x, r =>
    match skipBlank r with
    | ',' :: rest => do
      let (xs, rest) ← closedList item closing more rest
      return (x :: xs, rest)
    | _ => closeWith closing [x] r

theorem closedList_eq (item : Reading α) (closing : Char) (more : Nat) (s : List Char) :
    closedList item closing more s = (item s >>= fun read => listTail item closing more read.1 read.2) := by
  cases hItem : item s with
  | error fault => cases more <;> simp [closedList, commaList, hItem]
  | ok read =>
    obtain ⟨x, r⟩ := read
    cases more with
    | zero => simp [closedList, commaList, listTail, hItem]
    | succ more =>
      rcases hSkip : skipBlank r with _ | ⟨c, u⟩
      · simp [closedList, commaList, listTail, closeWith, hItem, hSkip, expectChar, skipBlank]
      · by_cases hComma : c = ','
        · subst hComma
          simp [closedList, commaList, listTail, closeWith, hItem, hSkip]
        · have hBlank := Text.skipBlank_cons (Text.skipBlank_eq_cons hSkip) u
          simp [closedList, commaList, listTail, closeWith, expectChar, hItem, hSkip, hComma, hBlank]

/-- Where no comma follows, the list must be closed. -/
theorem listTail_of_noComma {item : Reading α} {closing : Char} {r : List Char} (h : ∀ u, skipBlank r ≠ ',' :: u)
    (more : Nat) (x : α) : listTail item closing more x r = closeWith closing [x] r := by
  cases more with
  | zero => rfl
  | succ more => simp only [listTail]

theorem closing_listTail {item : Nat → Reading α} {closing : Char} (hClosing : closing ∈ [')', ']'])
    (hStops : ∀ c ∈ stops, c ∉ itemClosers) :
    Closing closing stops fun room => listTail (item room.depth) closing room.more where
  ends room x r h := by
    rw [listTail_of_noComma (by simp [h])]
    exact (closing_closeWith hClosing hStops).ends room [x] r h
  closes x := by
    have hClose : Closing closing stops fun (_ : Room) (xs : List α) => closeWith closing xs :=
      closing_closeWith hClosing hStops
    obtain ⟨xs, hxs⟩ := hClose.closes [x]
    refine ⟨xs, fun room r rest h => ?_⟩
    rw [listTail_of_noComma (by simp [h, (isBlank_of_closing hClosing).2.2])]
    exact hxs room r rest h
  refuses room x r c u h hc := by
    have hComma : c ≠ ',' := by
      rintro rfl
      exact hStops ',' hc (by decide)
    rw [listTail_of_noComma (by simp [h, hComma])]
    exact (closing_closeWith hClosing hStops).refuses room [x] r c u h hc

/-- The outlook of a closed list follows from that of its items, since behind each comma stands another such list. -/
theorem outlook_closedList (item : Nat → Reading α) {closing : Char} (hClosing : closing ∈ [')', ']'])
    (hStops : ∀ c ∈ stops, c ∉ itemClosers) {n : Nat}
    (hItem : ∀ s, s.length ≤ n → Outlook stops (fun room => item room.depth) s) (s : List Char) (hs : s.length ≤ n) :
    Outlook stops' (fun room => closedList (item room.depth) closing room.more) s := by
  induction hLength : s.length using Nat.strong_induction_on generalizing s with
  | _ k ih =>
    have hEq : (fun room => closedList (item room.depth) closing room.more) =
        both (fun room => item room.depth) fun room => listTail (item room.depth) closing room.more := by
      funext room u
      exact closedList_eq (item room.depth) closing room.more u
    obtain ⟨hBlank, hCloser, -⟩ := isBlank_of_closing hClosing
    rw [hEq]
    refine (hItem s hs).close ⟨hBlank, hCloser⟩ (closing_listTail hClosing hStops) fun x r c u hr hSkip => ?_
    by_cases hComma : c = ','
    · subst hComma
      obtain ⟨b, hb, rfl, hBlank⟩ := exists_blanks_cons hSkip
      simp only [List.length_append, List.length_cons] at hr
      have hRest := ih u.length (by omega) u (by omega) rfl
      rw [← List.singleton_append, ← List.append_assoc]
      refine (hRest.map (x :: ·)).further (by simp) fun depth more t => ?_
      simp only [List.append_assoc, List.singleton_append, listTail, Text.skipBlank_append_cons hb hBlank]
    · refine (outlook_closeWith closing [x] hSkip).past (w := []) fun room t => ?_
      refine listTail_of_noComma (fun v hv => hComma ?_) room.more x
      obtain ⟨b, hb, rfl, hBlank⟩ := exists_blanks_cons hSkip
      rw [List.nil_append, List.append_assoc, List.cons_append, Text.skipBlank_append_cons hb hBlank] at hv
      exact (List.cons.inj hv).1

/-- The rest of a list of literals: it may be closed at once. -/
theorem outlook_readList (s : List Char) : Outlook stops (fun _ => readList) s := by
  refine Outlook.of_skips (fun _ u => by simp [readList]) ?_ fun c u hBlank _ => ?_
  · refine .ended (fun _ _ => ⟨_, rfl, rfl⟩) [']'] ⟨.array [], fun _ rest _ _ => ⟨rest, ?_, rfl⟩⟩
    have hSkip : skipBlank (']' :: rest) = ']' :: rest := Text.skipBlank_cons (by decide) rest
    simp [readList, hSkip]
  · by_cases hClose : c = ']'
    · subst hClose
      refine .settled (.array []) u (Nat.le_succ _) fun _ t _ => ?_
      simp [readList, Text.skipBlank_cons hBlank]
    · have hList : Outlook stops (fun room => closedList (fun s => readLiteral (skipBlank s)) ']' room.more) (c :: u) :=
        outlook_closedList (fun _ s => readLiteral (skipBlank s)) (by decide) (forall_mem_of_all (by decide))
          (fun s _ => outlook_literal s) (c :: u) (Nat.le_refl _)
      refine (hList.map Json.array).of_length fun room t => ?_
      simp [readList, Text.skipBlank_cons hBlank, hClose, closedList, closeWith]

/-! ## Slices -/

theorem outlook_bound (s : List Char) : Outlook stops (fun _ s => readBound (skipBlank s)) s := by
  refine Outlook.of_skips (fun _ u => by simp) ?_ fun c u hBlank _ => ?_
  · refine .pending ⟨none, fun _ rest _ hRest => ⟨skipBlank rest, ?_, by simp⟩⟩
    have hNone : ∀ c ∈ (skipBlank rest).head?, ¬(c = '-' ∨ c.isDigit = true) := by
      intro c hc
      exact (forall_mem_of_all (by decide) : ∀ c ∈ itemClosers, ¬(c = '-' ∨ c.isDigit = true)) c (hRest c hc)
    cases hSkip : skipBlank rest with
    | nil => simp [hSkip, readBound]
    | cons c u => simp [hSkip, readBound, hNone c (by rw [hSkip]; rfl)]
  · by_cases hNumber : c = '-' ∨ c.isDigit = true
    · refine ((outlook_readInteger (c :: u)).map some).past (w := []) fun room t => ?_
      simp [Text.skipBlank_cons hBlank, readBound, hNumber]
    · refine .settled none (c :: u) (Nat.le_refl _) fun _ t _ => ?_
      simp [Text.skipBlank_cons hBlank, readBound, hNumber]

/-- What follows a number in brackets: a colon and the rest of a slice, or nothing. -/
def colonTail (slice : α → Reading Segment) (alone : α → Segment) (_ : Room) (x : α) : Reading Segment := fun r =>
  match skipBlank r with
  | ':' :: rest => slice x rest
  | rest => .ok (alone x, rest)

theorem idle_colonTail (slice : α → Reading Segment) (alone : α → Segment) : Idle [] (colonTail slice alone) := by
  intro x
  refine ⟨alone x, fun _ r hr => ⟨skipBlank r, ?_, by simp⟩⟩
  cases hSkip : skipBlank r with
  | nil => simp [colonTail, hSkip]
  | cons c u =>
    have hColon : c ≠ ':' := by
      rintro rfl
      exact absurd (hr ':' (by rw [hSkip]; rfl)) (by decide)
    simp [colonTail, hSkip, hColon]

theorem outlook_colonTail {slice : α → Reading Segment} {alone : α → Segment} (x : α)
    (hSlice : ∀ u, Outlook stops (fun _ => slice x) u) {r u : List Char} {c : Char} (hSkip : skipBlank r = c :: u) :
    Outlook stops (fun room => colonTail slice alone room x) r := by
  obtain ⟨b, hb, hSplit, hBlank⟩ := exists_blanks_cons hSkip
  by_cases hColon : c = ':'
  · subst hColon
    rw [hSplit, ← List.singleton_append, ← List.append_assoc]
    refine (hSlice u).past fun room t => ?_
    simp only [List.append_assoc, List.singleton_append, colonTail, Text.skipBlank_append_cons hb hBlank]
  · refine .settled (alone x) (c :: u) (hSkip ▸ Text.length_skipBlank_le r) fun room t _ => ?_
    rw [hSplit, List.append_assoc, List.cons_append]
    simp [colonTail, Text.skipBlank_append_cons hb hBlank, hColon]

/-- The step of a slice after its bounds. -/
def readStep (start stop : Option Int) : Reading Segment := fun s => do
  let (step, rest) ← readBound (skipBlank s)
  return (.slice start stop step, rest)

theorem outlook_readSlice (start : Option Int) (s : List Char) : Outlook stops (fun _ => readSlice start) s := by
  have hSlice : Outlook stops
      (both (fun _ s => readBound (skipBlank s)) (colonTail (readStep start) fun stop => .slice start stop none)) s := by
    refine (outlook_bound s).both (idle_colonTail _ _) (List.nil_subset _) fun stop r c u _ hSkip => ?_
    exact outlook_colonTail stop (fun u => (outlook_bound u).map (Segment.slice start stop)) hSkip
  exact hSlice

/-! ## Selectors and brackets -/

/-- The signs that a comparison may stop at and more text may make a part of it: another operator starts with them, or the
fraction of a number. -/
def comparisonStops : List Char := "=!ic.".toList

/-- The signs that a whole expression may stop at. -/
def exprStops : List Char := '|' :: '&' :: comparisonStops

theorem exprStops_notClosers : ∀ c ∈ exprStops, c ∉ itemClosers := forall_mem_of_all (by decide)

theorem outlook_indexOrSlice (s : List Char) :
    Outlook stops (both (fun _ => readInteger) (colonTail (fun i => readSlice (some i)) .index)) s := by
  refine (outlook_readInteger s).both (idle_colonTail _ _) (List.nil_subset _) fun i r c u _ hSkip => ?_
  exact outlook_colonTail i (outlook_readSlice (some i)) hSkip

section Segments

variable {expr : Nat → Reading Expr} {n : Nat}
  (hExpr : ∀ s, s.length ≤ n → Outlook exprStops (fun room => expr room.depth) s) {s : List Char} (hs : s.length ≤ n)
include hExpr hs

theorem outlook_readSelector : Outlook exprStops (fun room => readSelector (expr room.depth)) s := by
  refine Outlook.of_skips (fun _ u => by simp [readSelector]) ?_ fun c u hBlank hLength => ?_
  · refine .ended (fun _ _ => ⟨_, rfl, rfl⟩) ['*'] ⟨.wildcard, fun room rest _ _ => ⟨rest, ?_, rfl⟩⟩
    have hSkip : skipBlank ('*' :: rest) = '*' :: rest := Text.skipBlank_cons (by decide) rest
    simp [readSelector, hSkip]
  · have hSkip (v : List Char) : skipBlank (c :: v) = c :: v := Text.skipBlank_cons hBlank v
    by_cases hStar : c = '*'
    · subst hStar
      exact .settled .wildcard u (Nat.le_succ _) fun _ t _ => by simp [readSelector, hSkip]
    by_cases hQuote : c = '\'' ∨ c = '"'
    · refine ((outlook_readString hQuote u).map Segment.child).past (w := [c]) fun room t => ?_
      simp [readSelector, hSkip, hStar, hQuote]
    rw [List.length_cons] at hLength
    by_cases hFilter : c = '?'
    · subst hFilter
      refine ((hExpr u (by omega)).map Segment.filter).past (w := ['?']) fun room t => ?_
      simp [readSelector, hSkip]
    by_cases hColon : c = ':'
    · subst hColon
      refine (outlook_readSlice none u).past (w := [':']) fun room t => ?_
      simp [readSelector, hSkip]
    by_cases hNumber : c = '-' ∨ c.isDigit = true
    · refine (outlook_indexOrSlice (c :: u)).past (w := []) fun room t => ?_
      simp only [List.nil_append, List.cons_append, readSelector, hSkip, hStar, hQuote, hFilter, hColon, hNumber, if_true,
        if_false]
      rfl
    · refine Outlook.of_error (.expected .selector (c :: u)) (fun _ => ?_) rfl
      simp [readSelector, hSkip, hStar, hQuote, hFilter, hColon, hNumber]

omit hExpr hs in
theorem readBracket_eq (expr : Reading Expr) (s : List Char) :
    readBracket expr s = do
      let (selectors, rest) ← closedList (readSelector expr) ']' s.length s
      return (joined selectors, rest) := by
  simp only [readBracket, closedList, closeWith, bind_assoc]
  refine bind_congr fun read => bind_congr fun rest => ?_
  obtain ⟨selectors, r⟩ := read
  unfold joined
  split <;> simp_all

theorem outlook_readBracket : Outlook stops (fun room => readBracket (expr room.depth)) s := by
  have hSelectors : Outlook stops (fun room => closedList (readSelector (expr room.depth)) ']' room.more) s :=
    outlook_closedList (fun depth => readSelector (expr depth)) (by decide) exprStops_notClosers
      (fun u hu => outlook_readSelector hExpr hu) s hs
  exact (hSelectors.map joined).of_length fun room t => readBracket_eq _ _

omit hExpr hs in
theorem readChild_letter {rest : List Char} (h : EndsIn itemClosers rest) :
    readChild ('a' :: rest) = .ok (.child "a", rest) := by
  have hName : readName (['a'] ++ rest) = .ok ("a", rest) :=
    readName_append (List.cons_ne_nil 'a' []) (forall_mem_of_all (by decide)) (h.noName itemClosers_noName)
  rw [List.singleton_append] at hName
  simp [readChild, hName]

theorem outlook_readDescent : Outlook stops (fun room => readDescent (expr room.depth)) s := by
  cases s with
  | nil =>
    refine .ended (fun _ _ => ⟨_, rfl, rfl⟩) ['a'] ⟨.descend (.child "a"), fun room rest _ hRest => ⟨rest, ?_, rfl⟩⟩
    simp [readDescent, readChild_letter hRest]
  | cons c u =>
    rw [List.length_cons] at hs
    by_cases hBracket : c = '['
    · subst hBracket
      have hRest : Outlook stops (fun room => readBracket (expr room.depth)) u := outlook_readBracket hExpr (by omega)
      refine (hRest.map Segment.descend).past (w := ['[']) fun room t => ?_
      simp [readDescent]
    by_cases hStar : c = '*'
    · subst hStar
      exact .settled (.descend .wildcard) u (Nat.le_succ _) fun _ t _ => by simp [readDescent]
    · refine ((outlook_readName (c :: u)).map (fun name => .descend (.child name))).past (w := []) fun room t => ?_
      simp [readDescent, readChild, hBracket, hStar]

theorem outlook_readDotted : Outlook stops (fun room => readDotted (expr room.depth)) s := by
  cases s with
  | nil =>
    refine .ended (fun _ _ => ⟨_, rfl, rfl⟩) ['a'] ⟨.child "a", fun room rest _ hRest => ⟨rest, ?_, rfl⟩⟩
    simp [readDotted, readChild_letter hRest]
  | cons c u =>
    rw [List.length_cons] at hs
    by_cases hPoint : c = '.'
    · subst hPoint
      have hRest : Outlook stops (fun room => readDescent (expr room.depth)) u := outlook_readDescent hExpr (by omega)
      refine hRest.past (w := ['.']) fun room t => ?_
      simp [readDotted]
    by_cases hStar : c = '*'
    · subst hStar
      exact .settled .wildcard u (Nat.le_succ _) fun _ t _ => by simp [readDotted]
    · refine ((outlook_readName (c :: u)).map Segment.child).past (w := []) fun room t => ?_
      simp [readDotted, readChild, hPoint, hStar]

end Segments

/-- The segments after one of them. -/
def segmentsAfter (expr : Nat → Reading Expr) (room : Room) (segment : Segment) : Reading (List Segment) := fun r => do
  let (segments, rest) ← readSegments (expr room.depth) room.more r
  return (segment :: segments, rest)

theorem readSegments_of_ends {expr : Reading Expr} {r : List Char} (h : EndsIn itemClosers r) (more : Nat) :
    readSegments expr more r = .ok ([], r) := by
  cases more with
  | zero => rfl
  | succ more =>
    cases hSkip : skipBlank r with
    | nil => simp [readSegments, hSkip]
    | cons c u =>
      have hSigns : ∀ c ∈ itemClosers, c ≠ '.' ∧ c ≠ '[' := forall_mem_of_all (by decide)
      obtain ⟨hPoint, hBracket⟩ := hSigns c (h c (by rw [hSkip]; rfl))
      simp [readSegments, hSkip, hPoint, hBracket]

theorem idle_segmentsAfter (expr : Nat → Reading Expr) : Idle [] (segmentsAfter expr) := by
  intro segment
  refine ⟨[segment], fun room r hr => ⟨r, ?_, rfl⟩⟩
  rw [List.append_nil] at hr
  simp [segmentsAfter, readSegments_of_ends hr]

/-- A segment is read behind its mark, and then the others that are left. -/
theorem outlook_segment {expr : Nat → Reading Expr} (segment : Nat → Reading Segment) {mark : Char} {b u : List Char}
    (hMark : ∀ depth more t, readSegments (expr depth) (more + 1) (b ++ mark :: t) =
      both (fun room => segment room.depth) (segmentsAfter expr) ⟨depth, more⟩ t)
    (h : Outlook [] (fun room => segment room.depth) u)
    (hRest : ∀ r, r.length ≤ u.length → Outlook stops (fun room => readSegments (expr room.depth) room.more) r) :
    Outlook stops (fun room => readSegments (expr room.depth) room.more) (b ++ mark :: u) := by
  have hBoth : Outlook stops (both (fun room => segment room.depth) (segmentsAfter expr)) u := by
    refine h.both (idle_segmentsAfter expr) (List.nil_subset _) fun x r _ _ hr _ => ?_
    exact (hRest r hr).map (x :: ·)
  rw [← List.singleton_append, ← List.append_assoc]
  refine hBoth.further (by simp) fun depth more t => ?_
  rw [List.append_assoc, List.singleton_append]
  exact hMark depth more (u ++ t)

section Paths

variable {expr : Nat → Reading Expr} {n : Nat}
  (hExpr : ∀ s, s.length ≤ n → Outlook exprStops (fun room => expr room.depth) s)
include hExpr

theorem outlook_readSegments (s : List Char) (hs : s.length ≤ n) :
    Outlook stops (fun room => readSegments (expr room.depth) room.more) s := by
  induction hLength : s.length using Nat.strong_induction_on generalizing s with
  | _ k ih =>
    cases hSkip : skipBlank s with
    | nil =>
      refine .pending ⟨[], fun room rest _ hRest => ⟨s ++ rest, ?_, skipBlank_append_of_nil hSkip rest⟩⟩
      exact readSegments_of_ends (endsIn_of_skipBlank (skipBlank_append_of_nil hSkip rest) hRest) room.more
    | cons c u =>
      obtain ⟨b, hb, rfl, hBlank⟩ := exists_blanks_cons hSkip
      simp only [List.length_append, List.length_cons] at hs hLength
      have hu : u.length ≤ n := by omega
      have hRest (r : List Char) (hr : r.length ≤ u.length) :
          Outlook stops (fun room => readSegments (expr room.depth) room.more) r :=
        ih r.length (by omega) r (by omega) rfl
      have hSkipMore (t : List Char) : skipBlank (b ++ c :: t) = c :: t := Text.skipBlank_append_cons hb hBlank t
      by_cases hPoint : c = '.'
      · subst hPoint
        refine outlook_segment (fun depth => readDotted (expr depth)) (fun depth more t => ?_)
          (outlook_readDotted hExpr hu) hRest
        simp [readSegments, both, segmentsAfter, hSkipMore]
      by_cases hBracket : c = '['
      · subst hBracket
        refine outlook_segment (fun depth => readBracket (expr depth)) (fun depth more t => ?_)
          (outlook_readBracket hExpr hu) hRest
        simp [readSegments, both, segmentsAfter, hSkipMore]
      · refine .settled [] (b ++ c :: u) (Nat.le_refl _) fun room t _ => ?_
        rw [List.append_assoc, List.cons_append]
        cases room.more with
        | zero => rfl
        | succ more => simp [readSegments, hSkipMore, hPoint, hBracket]

theorem outlook_readPath (root : Root) (s : List Char) (hs : s.length ≤ n) :
    Outlook stops (fun room => readPath (expr room.depth) root) s :=
  ((outlook_readSegments hExpr s hs).map (Expr.path root)).of_length fun _ _ => rfl

end Paths

end TemplateQuery.Query
