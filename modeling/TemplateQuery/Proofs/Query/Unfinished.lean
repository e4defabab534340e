import TemplateQuery.Pattern.Reader
import TemplateQuery.Proofs.Query.UnfinishedSegments
import TemplateQuery.Query.Selection
import TemplateQuery.Query.Standard

/-!
# Unfinished queries

The outlook of the readers of operands and operators, by induction on the length of the text, and from it that of whole
queries. A query whose text ends too early was read to its end, and some text completes it.
-/
namespace TemplateQuery.Query

open Text (isBlank skipBlank)

variable {stops : List Char}

/-! ## Operands -/

/-- Where an operand must begin, white space apart, the end of the text is too early, and a mark of the current value is
one. -/
structure Missing (R : Room → Reading Expr) : Prop where
  ends : ∀ {s}, skipBlank s = [] → ∀ room, ∃ fault, R room s = .error fault ∧ fault.isEnd = true
  completes : ∀ {s}, skipBlank s = [] → Completes R s ['@']

section Operands

variable {expr : Nat → Reading Expr} {n : Nat} (known : String → Bool)
  (hExpr : ∀ s, s.length ≤ n → Outlook exprStops (fun room => expr room.depth) s)
  (hNil : ∀ depth, ∃ fault, expr depth [] = .error fault ∧ fault.isEnd = true)
include hExpr hNil

theorem outlook_readCall (name : String) {s : List Char} (hs : s.length ≤ n) :
    Outlook stops (fun room => readCall (expr room.depth) name) s := by
  refine Outlook.of_skips (fun _ u => by simp [readCall]) ?_ fun c u hBlank hLength => ?_
  · refine .ended (fun room _ => ?_) [')'] ⟨.call name [], fun room rest _ _ => ⟨rest, ?_, rfl⟩⟩
    · obtain ⟨fault, hFault, hEnd⟩ := hNil room.depth
      exact ⟨fault, by simp [readCall, skipBlank, commaList, hFault], hEnd⟩
    · have hSkip : skipBlank (')' :: rest) = ')' :: rest := Text.skipBlank_cons (by decide) rest
      simp [readCall, hSkip]
  · have hSkip (v : List Char) : skipBlank (c :: v) = c :: v := Text.skipBlank_cons hBlank v
    by_cases hClose : c = ')'
    · subst hClose
      exact .settled (.call name []) u (Nat.le_succ _) fun _ t _ => by simp [readCall, hSkip]
    · have hList : Outlook stops (fun room => closedList (expr room.depth) ')' room.more) (c :: u) :=
        outlook_closedList expr (by decide) exprStops_notClosers hExpr (c :: u) (Nat.le_trans hLength hs)
      refine (hList.map (Expr.call name)).of_length fun room t => ?_
      simp [readCall, hSkip, hClose, closedList, closeWith]

omit hExpr hNil in
theorem readWord_constant {name : String} {value : Json} (h : (name, value) ∈ constants) {expr : Reading Expr}
    {w rest : List Char} (hName : readName (w ++ rest) = .ok (name, rest)) :
    readWord expr known (w ++ rest) = .ok (.literal value, rest) := by
  simp only [constants, List.mem_cons, List.not_mem_nil, or_false, Prod.mk.injEq] at h
  rcases h with ⟨rfl, rfl⟩ | ⟨rfl, rfl⟩ | ⟨rfl, rfl⟩ <;> simp [readWord, hName]

omit hExpr hNil in
/-- Any other word calls a function. -/
theorem readWord_name (expr : Reading Expr) {name : String} (h : ∀ value, (name, value) ∉ constants) {w rest : List Char}
    (hName : readName (w ++ rest) = .ok (name, rest)) :
    readWord expr known (w ++ rest) = match skipBlank rest with
      | '(' :: rest => if known name then readCall expr name rest else .error (.unknownFunction name)
      | _ => .error (.strayWord name (w ++ rest)) := by
  have hTrue : name ≠ "true" := by
    rintro rfl
    exact h (.bool true) (by simp [constants])
  have hFalse : name ≠ "false" := by
    rintro rfl
    exact h (.bool false) (by simp [constants])
  have hNull : name ≠ "null" := by
    rintro rfl
    exact h .null (by simp [constants])
  simp only [readWord, hName, ok_bind, if_neg hTrue, if_neg hFalse, if_neg hNull]
  rfl

theorem outlook_readWord {c : Char} (hc : isNameChar c = true) {u : List Char} (hu : u.length ≤ n) :
    Outlook stops (fun room => readWord (expr (room.depth - 1)) known) (c :: u) := by
  obtain ⟨w, r, rfl, hw, hr⟩ := exists_run isNameChar u
  have hName (rest : List Char) (hRest : startsWithNameChar rest = false) :
      readName (c :: w ++ rest) = .ok (String.ofList (c :: w), rest) :=
    readName_append (List.cons_ne_nil c w) (List.forall_mem_cons.2 ⟨hc, hw⟩) hRest
  rw [← List.cons_append]
  by_cases hConstant : ∃ value, (String.ofList (c :: w), value) ∈ constants
  · obtain ⟨value, hValue⟩ := hConstant
    refine Outlook.of_run (x := .literal value) (not_mem_of_isNameChar itemClosers_noName) (fun room rest hRest => ?_) hr
    exact readWord_constant known hValue (hName rest (startsWithNameChar_eq_false.2 hRest))
  · rw [not_exists] at hConstant
    have hWord (room : Room) (rest : List Char) (hRest : startsWithNameChar rest = false) :=
      readWord_name known (expr (room.depth - 1)) hConstant (hName rest hRest)
    by_cases hOpen : ∃ v, skipBlank r = '(' :: v
    · obtain ⟨v, hOpen⟩ := hOpen
      obtain ⟨b, hb, rfl, hBlank⟩ := exists_blanks_cons hOpen
      have hParenthesis : isNameChar '(' = false := by decide
      have hCall (room : Room) (t : List Char) := hWord room (b ++ '(' :: t) (startsWithNameChar_blanks hb hParenthesis)
      simp only [Text.skipBlank_append_cons hb hBlank] at hCall
      by_cases hKnown : known (String.ofList (c :: w)) = true
      · have hRest : Outlook stops (fun room => readCall (expr room.depth) (String.ofList (c :: w))) v := by
          refine outlook_readCall hExpr hNil _ ?_
          simp only [List.length_append, List.length_cons] at hu
          omega
        have hBehind : Outlook stops (fun room => readWord (expr (room.depth - 1)) known) (c :: w ++ (b ++ ['(']) ++ v) := by
          refine hRest.deeper (by simp) fun depth more t => ?_
          have hRead := hCall ⟨depth + 1, more⟩ (v ++ t)
          rw [if_pos hKnown] at hRead
          simpa using hRead
        simpa using hBehind
      · refine Outlook.of_error (.unknownFunction (String.ofList (c :: w))) (fun room => ?_) rfl
        rw [hCall, if_neg hKnown]
    · refine Outlook.of_error (.strayWord (String.ofList (c :: w)) (c :: w ++ r)) (fun room => ?_) rfl
      rw [hWord room r (startsWithNameChar_eq_false.2 hr)]
      split
      · rename_i v hOpen'
        exact absurd ⟨v, hOpen'⟩ hOpen
      · rfl

omit hNil in
theorem outlook_readParenthesized {s : List Char} (hs : s.length ≤ n) :
    Outlook stops (fun room => readParenthesized (expr room.depth)) s := by
  have hClosing : Closing ')' exprStops fun (_ : Room) (e : Expr) => closeWith ')' e :=
    closing_closeWith (by decide) exprStops_notClosers
  exact (hExpr s hs).close (by decide) hClosing fun e r c u _ hSkip => outlook_closeWith ')' e hSkip

end Operands

section Primary

variable {expr : Nat → Reading Expr} {n : Nat} (known : String → Bool)
  (hExpr : ∀ s, s.length < n → Outlook exprStops (fun room => expr room.depth) s)
  (hNil : ∀ depth, ∃ fault, expr depth [] = .error fault ∧ fault.isEnd = true)

/-- The reader of operands, which nest one level deeper. -/
def primaryWithin (expr : Nat → Reading Expr) (known : String → Bool) (depth : Nat) : Reading Expr :=
  readPrimary (expr (depth - 1)) known

theorem readPath_of_ends {expr : Reading Expr} {rest : List Char} (h : EndsIn itemClosers rest) (root : Root) :
    readPath expr root rest = .ok (.path root [], rest) := by
  simp [readPath, readSegments_of_ends h]

theorem missing_primary (expr : Nat → Reading Expr) (known : String → Bool) :
    Missing fun room => primaryWithin expr known room.depth where
  ends h room := ⟨.expected .expression [], by simp [primaryWithin, readPrimary, h], rfl⟩
  completes {s} h := by
    refine ⟨.path .current [], fun room rest _ hRest => ⟨rest, ?_, rfl⟩⟩
    have hSkip : skipBlank (s ++ '@' :: rest) = '@' :: rest := by
      rw [skipBlank_append_of_nil h, Text.skipBlank_cons (by decide)]
    simp [primaryWithin, readPrimary, hSkip, readPath_of_ends hRest]

/-- What stands behind the first character of an operand is read with one level less. -/
theorem outlook_primary_behind (R : Nat → Reading Expr) {c : Char} {u : List Char}
    (h : Outlook stops (fun room => R room.depth) u)
    (hRead : ∀ depth t, readPrimary (expr depth) known (c :: (u ++ t)) = R depth (u ++ t)) :
    Outlook stops (fun room => primaryWithin expr known room.depth) (c :: u) := by
  refine h.deeper (w := [c]) (by simp) fun depth more t => ?_
  simp [primaryWithin, hRead]

include hExpr hNil in
theorem outlook_primary {s : List Char} (hs : s.length ≤ n) :
    Outlook ['.'] (fun room => primaryWithin expr known room.depth) s := by
  refine Outlook.of_skips (fun _ u => by simp [primaryWithin, readPrimary]) ?_ fun c u hBlank hLength => ?_
  · have hMissing := missing_primary expr known
    exact .ended (fun room _ => hMissing.ends rfl room) ['@'] (hMissing.completes rfl)
  rw [List.length_cons] at hLength
  have hInside (v : List Char) (hv : v.length ≤ u.length) := hExpr v (by omega)
  have hPath (root : Root) : Outlook ['.'] (fun room => readPath (expr room.depth) root) u :=
    outlook_readPath hInside root u (Nat.le_refl _)
  have hSkip (v : List Char) : skipBlank (c :: v) = c :: v := Text.skipBlank_cons hBlank v
  by_cases hOpen : c = '('
  · subst hOpen
    refine outlook_primary_behind known (fun depth => readParenthesized (expr depth))
      (outlook_readParenthesized hInside (Nat.le_refl _)) fun depth t => ?_
    simp [readPrimary, hSkip]
  by_cases hCurrent : c = '@'
  · subst hCurrent
    refine outlook_primary_behind known (fun depth => readPath (expr depth) .current) (hPath .current) fun depth t => ?_
    simp [readPrimary, hSkip]
  by_cases hDocument : c = '$'
  · subst hDocument
    refine outlook_primary_behind known (fun depth => readPath (expr depth) .document) (hPath .document) fun depth t => ?_
    simp [readPrimary, hSkip]
  by_cases hExtra : c = '_' ∧ startsWithNameChar u = false
  · obtain ⟨rfl, hu⟩ := hExtra
    cases u with
    | nil =>
      refine .pending ⟨.path .extra [], fun room rest _ hRest => ⟨rest, ?_, rfl⟩⟩
      simp [primaryWithin, readPrimary, hSkip, hRest.noName itemClosers_noName, readPath_of_ends hRest]
    | cons d v =>
      refine outlook_primary_behind known (fun depth => readPath (expr depth) .extra) (hPath .extra) fun depth t => ?_
      have hNext : startsWithNameChar (d :: (v ++ t)) = false := hu
      simp [readPrimary, hSkip, hNext]
  by_cases hList : c = '['
  · subst hList
    refine ((outlook_readList u).map Expr.literal).past (w := ['[']) fun room t => ?_
    simp [primaryWithin, readPrimary, hSkip]
  by_cases hWord : Text.isAlphabetic c = true ∨ c = '_'
  · have hName : isNameChar c = true := by
      rcases hWord with hWord | rfl
      · simp [isNameChar, Text.isAlphanumeric, hWord]
      · decide
    refine (outlook_readWord known hInside hNil hName (Nat.le_refl _)).past (w := []) fun room t => ?_
    have hLonger : ¬(c = '_' ∧ (!startsWithNameChar (u ++ t)) = true) := by
      rintro ⟨rfl, hNext⟩
      cases u with
      | nil => exact hExtra ⟨rfl, rfl⟩
      | cons d v =>
        refine hExtra ⟨rfl, ?_⟩
        simpa [startsWithNameChar] using hNext
    simp only [List.nil_append, List.cons_append, primaryWithin, readPrimary, hSkip, hOpen, hCurrent, hDocument, hLonger,
      hList, hWord, if_true, if_false]
  · refine ((outlook_readLiteral c u).map Expr.literal).past (w := []) fun room t => ?_
    obtain ⟨hAlphabetic, hUnderscore⟩ := not_or.1 hWord
    simp [primaryWithin, readPrimary, hSkip, hOpen, hCurrent, hDocument, hUnderscore, hList, hAlphabetic]

end Primary

/-! ## Operators -/

theorem Missing.both {R : Room → Reading Expr} {K : Room → Expr → Reading Expr} (h : Missing R) (hIdle : Idle stops K) :
    Missing (both R K) where
  ends hs room := by
    obtain ⟨fault, hFault, hEnd⟩ := h.ends hs room
    exact ⟨fault, by simp [Query.both, hFault], hEnd⟩
  completes hs := (h.completes hs).both hIdle

section Comparisons

/-- A comparison starts with one of a few signs, and two of them are always one. -/
theorem head_of_readComparison? {c : Char} {u rest : List Char} {op : Comparison}
    (h : readComparison? (c :: u) = some (op, rest)) : c ∈ "<>=!ic".toList := by
  obtain ⟨hText, -⟩ := readComparison?_eq_some_iff.1 h
  cases op <;> obtain ⟨rfl, -⟩ := List.cons.inj hText <;> decide

theorem readComparison?_eq_none {c : Char} (hc : c ∉ "<>=!ic".toList) (u : List Char) : readComparison? (c :: u) = none := by
  rw [Option.eq_none_iff_forall_not_mem]
  rintro ⟨op, rest⟩ h
  exact hc (head_of_readComparison? h)

theorem readComparison?_angle {c : Char} (hc : c = '<' ∨ c = '>') (u : List Char) : readComparison? (c :: u) ≠ none := by
  rcases hc with rfl | rfl
  · cases u with
    | nil => simp [readComparison?]
    | cons d u => by_cases hd : d = '=' <;> simp [readComparison?, hd]
  · cases u with
    | nil => simp [readComparison?]
    | cons d u => by_cases hd : d = '=' <;> simp [readComparison?, hd]

/-- Where there is no operator, more text does not make one, but for the signs that a comparison may stop at. -/
theorem readComparison?_none_of_notStop {c : Char} {u : List Char} (h : readComparison? (c :: u) = none)
    (hStop : c ∉ comparisonStops) (v : List Char) : readComparison? (c :: v) = none := by
  refine readComparison?_eq_none (fun hc => ?_) v
  have hSigns : ∀ c ∈ "<>=!ic".toList, (c = '<' ∨ c = '>') ∨ c ∈ comparisonStops := forall_mem_of_all (by decide)
  rcases hSigns c hc with hAngle | hOther
  · exact readComparison?_angle hAngle u h
  · exact hStop hOther

/-- An operator with something after it is not changed by more text. -/
theorem readComparison?_more {s rest : List Char} {op : Comparison} (h : readComparison? s = some (op, rest))
    (hRest : rest ≠ []) (t : List Char) : readComparison? (s ++ t) = some (op, rest ++ t) := by
  obtain ⟨rfl, hEnds⟩ := readComparison?_eq_some_iff.1 h
  obtain ⟨c, rest, rfl⟩ := List.exists_cons_of_ne_nil hRest
  refine readComparison?_eq_some_iff.2 ⟨by rw [List.append_assoc], hEnds.word, hEnds.sign⟩

variable {primary : Nat → Reading Expr} {n : Nat}

/-- What follows the first operand: a comparison with a second one, or nothing. -/
def compareTail (primary : Nat → Reading Expr) (room : Room) (left : Expr) : Reading Expr := fun r =>
  match readComparison? (skipBlank r) with
  | some (op, rest) => do
    let (right, rest) ← primary room.depth rest
    return (.compare left op right, rest)
  | none => .ok (left, skipBlank r)

theorem idle_compareTail (primary : Nat → Reading Expr) : Idle ['.'] (compareTail primary) := by
  intro left
  refine ⟨left, fun room r hr => ⟨skipBlank r, ?_, by simp⟩⟩
  have hNone : readComparison? (skipBlank r) = none := by
    cases hSkip : skipBlank r with
    | nil => rfl
    | cons c u =>
      have hSigns : ∀ c ∈ itemClosers ++ ['.'], c ∉ "<>=!ic".toList := forall_mem_of_all (by decide)
      exact readComparison?_eq_none (hSigns c (hr c (by rw [hSkip]; rfl))) u
  simp [compareTail, hNone]

variable (hPrimary : ∀ s, s.length ≤ n → Outlook ['.'] (fun room => primary room.depth) s)
  (hMissing : Missing fun room => primary room.depth)
include hPrimary hMissing

theorem outlook_compareTail (left : Expr) {r u : List Char} {c : Char} (hr : r.length ≤ n) (hSkip : skipBlank r = c :: u) :
    Outlook comparisonStops (fun room => compareTail primary room left) r := by
  obtain ⟨b, hb, rfl, hBlank⟩ := exists_blanks_cons hSkip
  have hSkipMore (t : List Char) : skipBlank (b ++ c :: u ++ t) = c :: u ++ t := by
    rw [List.append_assoc, List.cons_append, Text.skipBlank_append_cons hb hBlank]
  cases hOp : readComparison? (c :: u) with
  | some result =>
    obtain ⟨op, rest⟩ := result
    obtain ⟨hText, hEnds⟩ := readComparison?_eq_some_iff.1 hOp
    by_cases hRest : rest = []
    · subst hRest
      have hNow (room : Room) : compareTail primary room left (b ++ c :: u) = do
          let (right, rest) ← primary room.depth []
          return (.compare left op right, rest) := by
        simp [compareTail, hSkip, hOp]
      refine .ended (fun room _ => ?_) ['@'] ?_
      · obtain ⟨fault, hFault, hEnd⟩ := hMissing.ends (s := []) rfl room
        exact ⟨fault, by rw [hNow, hFault]; rfl, hEnd⟩
      · refine ((hMissing.completes (s := []) rfl).map (Expr.compare left op)).transfer fun room t hRoom =>
          ⟨room, hRoom.of_append, ?_⟩
        have hMark : readComparison? (c :: u ++ (['@'] ++ t)) = some (op, ['@'] ++ t) := by
          rw [hText, List.append_nil]
          exact readComparison?_eq_some_iff.2 ⟨rfl, fun _ => (by decide : isNameChar '@' = false), by simp⟩
        simp only [compareTail, hSkipMore, hMark]
        rfl
    · have hOutlook : Outlook comparisonStops (fun room => primary room.depth) rest := by
        refine (hPrimary rest ?_).mono (by decide)
        have hLength := congrArg List.length hText
        simp only [List.length_append, List.length_cons] at hr hLength
        omega
      rw [hText, ← List.append_assoc]
      refine (hOutlook.map (Expr.compare left op)).past fun room t => ?_
      have hMore := readComparison?_more hOp hRest t
      rw [List.append_assoc, ← List.append_assoc op.text, ← hText, ← List.append_assoc]
      simp only [compareTail, hSkipMore, hMore]
  | none =>
    by_cases hStop : c ∈ comparisonStops
    · refine .stopped left fun room _ => ⟨c :: u, c, u, ?_, Text.skipBlank_cons hBlank u, hStop⟩
      simp [compareTail, hSkip, hOp]
    · refine .settled left (c :: u) (by simp) fun room t _ => ?_
      have hNone : readComparison? (c :: u ++ t) = none := readComparison?_none_of_notStop hOp hStop (u ++ t)
      simp only [compareTail, hSkipMore, hNone]

theorem outlook_readCompared {s : List Char} (hs : s.length ≤ n) :
    Outlook comparisonStops (fun room => readCompared (primary room.depth)) s := by
  have hBoth : Outlook comparisonStops (both (fun room => primary room.depth) (compareTail primary)) s := by
    refine (hPrimary s hs).both (idle_compareTail primary) (by decide) fun left r c u hr hSkip => ?_
    exact outlook_compareTail hPrimary hMissing left (Nat.le_trans hr hs) hSkip
  exact hBoth

omit hPrimary in
theorem missing_readCompared : Missing fun room => readCompared (primary room.depth) :=
  hMissing.both (idle_compareTail primary)

end Comparisons

section Negations

/-- No negation begins: an exclamation mark may only start a comparison. -/
theorem readNegated_operand {operand : Reading Expr} {s : List Char} (h : ∀ u, skipBlank s = '!' :: u → u.head? = some '=')
    (more : Nat) : readNegated operand more s = operand s := by
  cases more with
  | zero => rfl
  | succ more =>
    rw [readNegated]
    split
    · rfl
    · rename_i rest hOther hSkip
      obtain ⟨after, rfl⟩ := List.head?_eq_some_iff.1 (h rest hSkip)
      exact (hOther after rfl).elim
    · rfl

theorem readNegated_not {operand : Reading Expr} {b u : List Char} (hb : b ∈ blanks) (hu : u.head? ≠ some '=')
    (more : Nat) :
    readNegated operand (more + 1) (b ++ '!' :: u) = do
      let (e, rest) ← readNegated operand more u
      return (.not e, rest) := by
  have hSkip : skipBlank (b ++ '!' :: u) = '!' :: u := Text.skipBlank_append_cons hb (by decide) u
  cases u with
  | nil => simp [readNegated, hSkip]
  | cons d v =>
    have hd : d ≠ '=' := by simpa using hu
    simp [readNegated, hSkip, hd]

variable (operand : Nat → Reading Expr) {n : Nat}
  (hOperand : ∀ s, s.length ≤ n → Outlook stops (fun room => operand room.depth) s)
  (hMissing : Missing fun room => operand room.depth)
include hOperand hMissing

omit hOperand in
theorem missing_readNegated : Missing fun room => readNegated (operand room.depth) room.more where
  ends hs room := by
    rw [readNegated_operand (by simp [hs])]
    exact hMissing.ends hs room
  completes {s} hs := by
    refine (hMissing.completes hs).transfer fun room t hRoom => ⟨room, hRoom, ?_⟩
    have hMark : skipBlank (s ++ (['@'] ++ t)) = '@' :: t := by
      rw [skipBlank_append_of_nil hs]
      exact Text.skipBlank_cons (by decide) t
    exact readNegated_operand (by rw [hMark]; simp) room.more

omit hOperand in
/-- More text could make `!=` of an exclamation mark at the end, so it is a mark of the current value that completes it. -/
theorem outlook_readNegated_mark {b : List Char} (hb : b ∈ blanks) :
    Outlook stops (fun room => readNegated (operand room.depth) room.more) (b ++ ['!']) := by
  have hNegated := missing_readNegated operand hMissing
  refine .ended (fun room hRoom => ?_) ['@'] ?_
  · obtain ⟨more, hMore⟩ := hRoom.exists_more (by simp)
    obtain ⟨fault, hFault, hEnd⟩ := hNegated.ends (s := []) rfl ⟨room.depth, more⟩
    refine ⟨fault, ?_, hEnd⟩
    rw [hMore, readNegated_not hb (by simp), hFault]
    rfl
  · refine ((hNegated.completes (s := []) rfl).map Expr.not).transfer fun room t hRoom => ?_
    obtain ⟨-, more, hMore, hHolds⟩ := hRoom.step (by simp)
    refine ⟨⟨room.depth, more⟩, hHolds, ?_⟩
    rw [hMore, List.append_assoc]
    exact readNegated_not hb (by simp) more

theorem outlook_readNegated (s : List Char) (hs : s.length ≤ n) :
    Outlook stops (fun room => readNegated (operand room.depth) room.more) s := by
  induction hLength : s.length using Nat.strong_induction_on generalizing s with
  | _ k ih =>
    cases hSkip : skipBlank s with
    | nil =>
      have hNegated := missing_readNegated operand hMissing
      exact .ended (fun room _ => hNegated.ends hSkip room) ['@'] (hNegated.completes hSkip)
    | cons c u =>
      obtain ⟨b, hb, rfl, hBlank⟩ := exists_blanks_cons hSkip
      by_cases hNot : c = '!' ∧ u.head? ≠ some '='
      · obtain ⟨rfl, hu⟩ := hNot
        cases u with
        | nil => exact outlook_readNegated_mark operand hMissing hb
        | cons d v =>
          simp only [List.length_append, List.length_cons] at hs hLength
          have hRest := ih (d :: v).length (by simp; omega) (d :: v) (by simp; omega) rfl
          rw [← List.singleton_append, ← List.append_assoc]
          refine (hRest.map Expr.not).further (by simp) fun depth more t => ?_
          rw [List.append_assoc, List.singleton_append]
          exact readNegated_not hb (by simpa using hu) more
      · refine (hOperand _ hs).past (w := []) fun room t => readNegated_operand (fun v hv => ?_) _
        rw [List.nil_append, List.append_assoc, List.cons_append, Text.skipBlank_append_cons hb hBlank] at hv
        obtain ⟨rfl, rfl⟩ := List.cons.inj hv
        have hu : u.head? = some '=' := by simpa using hNot
        obtain ⟨after, rfl⟩ := List.head?_eq_some_iff.1 hu
        rfl

end Negations

section Chains

variable {sign : Char} {join : Expr → Expr → Expr} (operand : Nat → Reading Expr) {n : Nat}
  (hSign : sign ∉ itemClosers ++ stops)

include hSign in
theorem readChain_of_ends {operand : Reading Expr} (more : Nat) (left : Expr) {r : List Char}
    (hr : EndsIn (itemClosers ++ stops) r) :
    ∃ r', readChain sign join operand more left r = .ok (left, r') ∧ skipBlank r' = skipBlank r := by
  cases more with
  | zero => exact ⟨r, rfl, rfl⟩
  | succ more =>
    refine ⟨skipBlank r, ?_, by simp⟩
    rcases hSkip : skipBlank r with _ | ⟨c, _ | ⟨d, u⟩⟩
    · simp [readChain, hSkip]
    · simp [readChain, hSkip]
    · have hc : c ≠ sign := by
        rintro rfl
        exact hSign (hr c (by rw [hSkip]; rfl))
      simp [readChain, hSkip, hc]

/-- The rest of a chain behind one more operand. -/
def chainAfter (sign : Char) (join : Expr → Expr → Expr) (operand : Nat → Reading Expr) (left : Expr) (room : Room)
    (right : Expr) : Reading Expr := readChain sign join (operand room.depth) room.more (join left right)

variable (hOperand : ∀ s, s.length ≤ n → Outlook stops (fun room => operand room.depth) s)
include hSign hOperand

theorem outlook_readChain (left : Expr) (s : List Char) (hs : s.length ≤ n) :
    Outlook (sign :: stops) (fun room => readChain sign join (operand room.depth) room.more left) s := by
  induction hLength : s.length using Nat.strong_induction_on generalizing s left with
  | _ k ih =>
    rcases hSkip : skipBlank s with _ | ⟨c, u⟩
    · refine .pending ⟨left, fun room rest _ hRest => ?_⟩
      have hRest' : skipBlank (s ++ ([] ++ rest)) = skipBlank rest := skipBlank_append_of_nil hSkip rest
      have hEnds := (endsIn_of_skipBlank hRest' hRest).mono (List.subset_append_left itemClosers stops)
      rw [← hRest']
      exact readChain_of_ends hSign room.more left hEnds
    obtain ⟨b, hb, rfl, hBlank⟩ := exists_blanks_cons hSkip
    have hSkipMore (t : List Char) : skipBlank (b ++ c :: t) = c :: t := Text.skipBlank_append_cons hb hBlank t
    by_cases hc : c = sign
    · subst hc
      cases u with
      | nil =>
        refine .stopped left fun room hRoom => ⟨[c], c, [], ?_, Text.skipBlank_cons hBlank [], List.mem_cons_self ..⟩
        obtain ⟨more, hMore⟩ := hRoom.exists_more (by simp)
        simp [hMore, readChain, hSkip]
      | cons d u =>
        by_cases hd : d = c
        · subst hd
          simp only [List.length_append, List.length_cons] at hs hLength
          have hBoth : Outlook (d :: stops) (both (fun room => operand room.depth) (chainAfter d join operand left)) u := by
            refine (hOperand u (by omega)).both (fun right => ?_) (List.subset_cons_self d stops) fun right r _ _ hr _ => ?_
            · exact ⟨join left right, fun room r hr => readChain_of_ends hSign room.more _ hr⟩
            · exact ih r.length (by omega) (join left right) r (by omega) rfl
          have hBehind : Outlook (d :: stops) (fun room => readChain d join (operand room.depth) room.more left)
              (b ++ [d, d] ++ u) := by
            refine hBoth.further (by simp) fun depth more t => ?_
            simp [readChain, hSkipMore, both, chainAfter]
          simpa using hBehind
        · refine .settled left (c :: d :: u) (by simp) fun room t hRoom => ?_
          obtain ⟨more, hMore⟩ := hRoom.exists_more (by simp)
          simp [hMore, readChain, hSkipMore, hd]
    · refine .settled left (c :: u) (by simp) fun room t hRoom => ?_
      obtain ⟨more, hMore⟩ := hRoom.exists_more (by simp)
      simp only [List.append_assoc, List.cons_append, hMore, readChain, hSkipMore]
      cases u ++ t with
      | nil => rfl
      | cons d v => simp [hc]

theorem outlook_readJoined (s : List Char) (hs : s.length ≤ n) :
    Outlook (sign :: stops) (fun room => readJoined sign join (operand room.depth)) s := by
  have hBoth : Outlook (sign :: stops) (both (fun room => operand room.depth) fun room left r =>
      readChain sign join (operand room.depth) r.length left r) s := by
    refine (hOperand s hs).both (fun left => ?_) (List.subset_cons_self sign stops) fun left r _ _ hr _ => ?_
    · exact ⟨left, fun room r hr => readChain_of_ends hSign r.length left hr⟩
    · have hChain : Outlook (sign :: stops) (fun room => readChain sign join (operand room.depth) room.more left) r :=
        outlook_readChain operand hSign hOperand left r (by omega)
      exact hChain.of_length fun _ _ => rfl
  exact hBoth

end Chains

/-! ## Expressions and queries -/

/-- At the end of the text no expression begins, however deep the reader may nest. -/
theorem readExpr_nil (known : String → Bool) (depth : Nat) :
    readExpr known depth [] = .error (.expected .expression []) := by
  cases depth with
  | zero => rfl
  | succ depth => simp [readExpr, readDisjunction, readJoined, readNegated, readCompared, readPrimary, skipBlank]

/-- With room for a text, its reader is the one over operands that nest one level less. -/
theorem readExpr_eq (known : String → Bool) {depth : Nat} {s : List Char} (h : s.length ≤ depth) :
    readExpr known depth s = readDisjunction (primaryWithin (readExpr known) known depth) s := by
  cases depth with
  | zero =>
    obtain rfl : s = [] := List.eq_nil_of_length_eq_zero (Nat.le_zero.1 h)
    simp [readExpr, readDisjunction, readJoined, readNegated, readCompared, primaryWithin, readPrimary, skipBlank]
  | succ depth => rfl

section Disjunctions

variable {primary : Nat → Reading Expr} {n : Nat}
  (hPrimary : ∀ s, s.length ≤ n → Outlook ['.'] (fun room => primary room.depth) s)
  (hMissing : Missing fun room => primary room.depth)
include hPrimary hMissing

theorem outlook_negated {s : List Char} (hs : s.length ≤ n) :
    Outlook comparisonStops (fun room s => readNegated (readCompared (primary room.depth)) s.length s) s := by
  have hCompared (v : List Char) (hv : v.length ≤ n) := outlook_readCompared hPrimary hMissing hv
  have hNegated := outlook_readNegated (fun depth => readCompared (primary depth)) hCompared (missing_readCompared hMissing)
    s hs
  exact hNegated.of_length fun _ _ => rfl

theorem outlook_readDisjunction {s : List Char} (hs : s.length ≤ n) :
    Outlook exprStops (fun room => readDisjunction (primary room.depth)) s := by
  have hNegated (v : List Char) (hv : v.length ≤ n) := outlook_negated hPrimary hMissing hv
  have hConjunction (v : List Char) (hv : v.length ≤ n) : Outlook ('&' :: comparisonStops)
      (fun room => readJoined '&' .and fun s => readNegated (readCompared (primary room.depth)) s.length s) v :=
    outlook_readJoined (fun depth s => readNegated (readCompared (primary depth)) s.length s) (by decide) hNegated v hv
  exact outlook_readJoined
    (fun depth => readJoined '&' .and fun s => readNegated (readCompared (primary depth)) s.length s) (by decide)
    hConjunction s hs

end Disjunctions

theorem outlook_readExpr (known : String → Bool) (s : List Char) :
    Outlook exprStops (fun room => readExpr known room.depth) s := by
  induction hLength : s.length using Nat.strong_induction_on generalizing s with
  | _ k ih =>
    have hExpr (v : List Char) (hv : v.length < k) : Outlook exprStops (fun room => readExpr known room.depth) v :=
      ih v.length hv v rfl
    have hNil (depth : Nat) : ∃ fault, readExpr known depth [] = .error fault ∧ fault.isEnd = true :=
      ⟨_, readExpr_nil known depth, rfl⟩
    have hPrimary (v : List Char) (hv : v.length ≤ k) := outlook_primary known hExpr hNil hv
    have hDisjunction := outlook_readDisjunction hPrimary (missing_primary (readExpr known) known) (Nat.le_of_eq hLength)
    exact hDisjunction.transfer (Nat.le_refl _) fun room t hRoom => ⟨room, hRoom, readExpr_eq known hRoom.depth⟩

section Queries

variable {known : String → Bool} {b u : List Char}

theorem readQuery_of_path (hb : b ∈ blanks) {segments : List Segment} {r : List Char}
    (h : readSegments (readExpr known u.length) u.length u = .ok (segments, r)) :
    readQuery known (b ++ '$' :: u) = match skipBlank r with
      | [] => .ok segments
      | rest => .error (.expected .endOfQuery rest) := by
  rw [readQuery, Text.skipBlank_append_cons hb (by decide)]
  simp only [h, ok_bind]
  cases skipBlank r <;> rfl

theorem readQuery_of_error (hb : b ∈ blanks) {fault : Fault}
    (h : readSegments (readExpr known u.length) u.length u = .error fault) :
    readQuery known (b ++ '$' :: u) = .error fault := by
  rw [readQuery, Text.skipBlank_append_cons hb (by decide)]
  simp only [h]
  rfl

/-- A query that fails for want of more text is completed by some text: nothing but the path behind its root can end too
early. -/
theorem readQuery_ended {s : List Char} {fault : Fault} (h : readQuery known s = .error fault) (hEnd : fault.isEnd = true) :
    ∃ more segments, readQuery known (s ++ more) = .ok segments := by
  by_cases hRoot : ∃ u, skipBlank s = '$' :: u
  · obtain ⟨u, hSkip⟩ := hRoot
    obtain ⟨b, hb, rfl, -⟩ := exists_blanks_cons hSkip
    have hPath : Outlook [] (fun room => readSegments (readExpr known room.depth) room.more) u :=
      outlook_readSegments (fun s _ => outlook_readExpr known s) u (Nat.le_refl _)
    have hRoom (t : List Char) : Room.Holds ⟨t.length, t.length⟩ t := ⟨Nat.le_refl _, Nat.le_refl _⟩
    cases hPath with
    | settled segments r _ reads =>
      have hRead := reads ⟨u.length, u.length⟩ [] (by simpa using hRoom u)
      simp only [List.append_nil] at hRead
      rw [readQuery_of_path hb hRead] at h
      cases hLeft : skipBlank r with
      | nil =>
        rw [hLeft] at h
        cases h
      | cons c v =>
        rw [hLeft] at h
        cases h
        cases hEnd
    | pending completes =>
      obtain ⟨segments, hRead⟩ := completes.ok
      obtain ⟨r, hRead, hLeft⟩ := hRead ⟨u.length, u.length⟩ (by simpa using hRoom u)
      simp only [List.append_nil] at hRead
      rw [readQuery_of_path hb hRead, hLeft] at h
      cases h
    | stopped segments stops_at =>
      obtain ⟨_, _, _, -, -, hNone⟩ := stops_at _ (hRoom u)
      cases hNone
    | ended _ more completes =>
      obtain ⟨segments, hRead⟩ := completes.ok
      obtain ⟨r, hRead, hLeft⟩ := hRead _ (hRoom (u ++ more))
      refine ⟨more, segments, ?_⟩
      rw [List.append_assoc, List.cons_append, readQuery_of_path hb hRead, hLeft]
    | refused refuses =>
      obtain ⟨fault', hFault, hOther⟩ := refuses _ (hRoom u)
      rw [readQuery_of_error hb hFault] at h
      cases h
      rw [hOther] at hEnd
      cases hEnd
  · have hNoRoot : readQuery known s = .error (.malformed .noRoot) := by
      rw [readQuery]
      split
      · rename_i u hSkip
        exact absurd ⟨u, hSkip⟩ hRoot
      · rfl
    rw [hNoRoot] at h
    cases h
    cases hEnd

end Queries

theorem Fault.eq_of_toError {length : Nat} {fault : Fault} {what : Expected} (h : fault.toError length = .ended what) :
    fault = .expected what [] := by
  cases fault with
  | expected what' rest =>
    cases rest with
    | nil =>
      cases h
      rfl
    | cons c rest => cases h
  | _ => cases h

/-- A query whose text ends too early was read to its end, and there is a text that completes it. -/
theorem ended_query_can_be_completed (functions : FunctionTable) (source : String) (what : Expected)
    (h : compile functions source = .error (.ended what)) :
    readQuery functions.knows source.toList = .error (.expected what []) ∧
      ∃ more query, compile functions (source ++ more) = .ok query := by
  cases hRead : readQuery functions.knows source.toList with
  | ok segments =>
    simp only [compile, hRead] at h
    cases h
  | error fault =>
    simp only [compile, hRead, Except.error.injEq] at h
    obtain rfl := Fault.eq_of_toError h
    obtain ⟨more, segments, hMore⟩ := readQuery_ended hRead rfl
    refine ⟨rfl, String.ofList more, ⟨source ++ String.ofList more, segments, functions⟩, ?_⟩
    simp [compile, hMore]

/-- A string, in a list, in parentheses, in a filter, in a union: none of them has come to its end. -/
def unfinishedQuery : String := "$.a[0, ?(@.b in [1, 'c"

theorem ended_query_can_be_completed_nested :
    compile standardFunctions unfinishedQuery = .error (.ended (.closingQuote '\'')) ∧
      readQuery standardFunctions.knows unfinishedQuery.toList = .error (.expected (.closingQuote '\'') []) ∧
      ∃ more query, compile standardFunctions (unfinishedQuery ++ more) = .ok query :=
  have hEnded : compile standardFunctions unfinishedQuery = .error (.ended (.closingQuote '\'')) := by
    have hError : (compile standardFunctions unfinishedQuery).map (fun _ => ()) = .error (.ended (.closingQuote '\'')) := by
      decide +kernel
    cases hCompile : compile standardFunctions unfinishedQuery with
    | ok query => simp [hCompile, Except.map] at hError
    | error e => simpa [hCompile, Except.map] using hError
  ⟨hEnded, ended_query_can_be_completed standardFunctions unfinishedQuery (.closingQuote '\'') hEnded⟩

end TemplateQuery.Query
