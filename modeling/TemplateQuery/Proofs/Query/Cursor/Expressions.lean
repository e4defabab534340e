import TemplateQuery.Proofs.Query.Cursor.Segments
import TemplateQuery.Proofs.Query.Unfinished

/-!
# Expressions at a position

The cursor follows the readers of operands and operators. By induction on how deep expressions may nest this shows it for
all texts that are no longer than the nesting is deep, so that neither of the two gives up for want of depth.
-/
namespace TemplateQuery.Query

open Text (skipBlank)

variable {text s : List Char} {known : String → Bool}

/-! ## Operands -/

section Operands

variable {expr : Cursor Expr} {read : Reading Expr} {k : Nat}
  (hExpr : ∀ u : List Char, u.length < k → Follows text u u.length expr (read u))
include hExpr

theorem follows_call (name : String) (hs : s.length < k) :
    Follows text s s.length (Cursor.call expr name) (readCall read name s) := by
  have hSkip := Text.length_skipBlank_le s
  unfold readCall
  refine follows_skip.andThen (follows_sign (fun u hu => ?_) fun hOther => ?_)
  · rw [hu, List.length_cons] at hSkip
    simp only [hu]
    exact follows_pure _ (by omega)
  · have hItem (u : List Char) (hu : u.length ≤ (skipBlank s).length) : Follows text u u.length expr (read u) :=
      hExpr u (by omega)
    split
    · rename_i u hu
      exact absurd (congrArg List.head? hu) hOther
    · refine (follows_list hItem (Nat.le_refl _)).bind fun arguments r hr => ?_
      exact Follows.afterExpect fun r' hr' => follows_pure (Expr.call name arguments) (by omega)

theorem follows_word (hs : s.length ≤ k) :
    Follows text s s.length (Cursor.word expr known) (readWord read known s) := by
  refine follows_position fun start hStart hWithin => follows_name.bind fun name r hr => ?_
  have hSkip := Text.length_skipBlank_le r
  dsimp only
  by_cases hTrue : name = "true"
  · rw [if_pos hTrue, if_pos hTrue]
    exact follows_pure _ hr
  rw [if_neg hTrue, if_neg hTrue]
  by_cases hFalse : name = "false"
  · rw [if_pos hFalse, if_pos hFalse]
    exact follows_pure _ hr
  rw [if_neg hFalse, if_neg hFalse]
  by_cases hNull : name = "null"
  · rw [if_pos hNull, if_pos hNull]
    exact follows_pure _ hr
  rw [if_neg hNull, if_neg hNull]
  refine follows_skip.andThen (follows_peek.andThen ?_)
  by_cases hOpen : (skipBlank r).head? = some '('
  · obtain ⟨u, hu⟩ := List.head?_eq_some_iff.1 hOpen
    rw [hu, List.length_cons] at hSkip
    simp only [hu, List.head?_cons, if_true]
    split_ifs
    · exact follows_jump.andThen ((follows_call hExpr name (by omega)).mono (by omega))
    · have hIn : (Fault.unknownFunction name).IsIn text := trivial
      exact follows_fail hIn rfl
  · rw [if_neg hOpen]
    split
    · rename_i u hu
      exact absurd (congrArg List.head? hu) hOpen
    · have hIn : (Fault.strayWord name s).IsIn text := trivial
      refine follows_fail hIn ?_
      rw [Fault.toError, ← hStart, List.length_drop, Nat.sub_sub_self hWithin]

theorem follows_parenthesized (hs : s.length < k) :
    Follows text s s.length (Cursor.parenthesized expr) (readParenthesized read s) := by
  refine (hExpr s hs).bind fun e r hr => ?_
  exact Follows.afterExpect fun r' hr' => follows_pure e (Nat.le_trans hr' hr)

theorem follows_primary (hs : s.length ≤ k) :
    Follows text s s.length (Cursor.primary expr known) (readPrimary read known s) := by
  have hSkip := Text.length_skipBlank_le s
  refine follows_skip.andThen ((follows_peekAt 1).andThen (follows_peek.andThen ?_))
  unfold readPrimary
  rw [any_isNameChar_getElem?]
  cases hText : skipBlank s with
  | nil => exact follows_ended .expression
  | cons c u =>
    rw [hText, List.length_cons] at hSkip
    have hBlank := Text.skipBlank_eq_cons hText
    simp only [List.head?_cons, List.drop_one, List.tail_cons]
    split_ifs
    · exact follows_jump.andThen ((follows_parenthesized hExpr (by omega)).mono (by omega))
    · exact follows_jump.andThen ((follows_path hExpr .current (by omega)).mono (by omega))
    · exact follows_jump.andThen ((follows_path hExpr .document (by omega)).mono (by omega))
    · exact follows_jump.andThen ((follows_path hExpr .extra (by omega)).mono (by omega))
    · exact follows_jump.andThen (follows_literals.bind fun x r hr => follows_pure _ (by omega))
    · exact (follows_word hExpr (Nat.le_trans hSkip hs)).mono hSkip
    · have hLiteral : Follows text (c :: u) (c :: u).length Cursor.literal (readLiteral (c :: u)) :=
        follows_literal (by simpa using hBlank)
      exact hLiteral.bind fun x r hr => follows_pure _ (Nat.le_trans hr hSkip)

end Operands

/-! ## Operators -/

/-- The value of a reader that may find nothing, and what follows: then it is the text as it was. -/
def orNone {α : Type} (s : List Char) : Option (α × List Char) → Option α × List Char
  | some (x, rest) => (some x, rest)
  | none => (none, s)

def readComparisonWord? (s : List Char) : Option (Comparison × List Char) :=
  match afterKeyword? "in".toList s with
  | some rest => some (.isIn, rest)
  | none => (afterKeyword? "contains".toList s).map fun rest => (.contains, rest)

/-- Where no sign of a comparison comes next, there may be a word. -/
theorem readComparison?_word (h : ∀ sign ∈ Cursor.signs, ¬ sign.1 <+: s) : readComparison? s = readComparisonWord? s := by
  simp only [Cursor.signs, List.forall_mem_cons] at h
  obtain ⟨hEqual, hNotEqual, hLessEqual, hGreaterEqual, hLess, hGreater, -⟩ := h
  unfold readComparison?
  split
  · exact absurd ⟨_, rfl⟩ hEqual
  · exact absurd ⟨_, rfl⟩ hNotEqual
  · exact absurd ⟨_, rfl⟩ hLessEqual
  · exact absurd ⟨_, rfl⟩ hGreaterEqual
  · exact absurd ⟨_, rfl⟩ hLess
  · exact absurd ⟨_, rfl⟩ hGreater
  · rfl

theorem length_le_of_readComparison? {op : Comparison} {rest : List Char} (h : readComparison? s = some (op, rest)) :
    rest.length ≤ s.length := by
  obtain ⟨rfl, -⟩ := readComparison?_eq_some_iff.1 h
  simp

theorem follows_comparisonWord :
    Follows text s s.length Cursor.comparisonWord (.ok (orNone s (readComparisonWord? s))) := by
  unfold readComparisonWord?
  refine follows_keyword (fun r h hr => ?_) fun hIn => ?_
  · rw [h]
    exact follows_pure _ hr
  refine follows_keyword (fun r h hr => ?_) fun hContains => ?_
  · rw [hIn, h]
    exact follows_pure _ hr
  rw [hIn, hContains]
  exact follows_pure none (Nat.le_refl _)

theorem follows_comparison :
    Follows text s s.length (Cursor.comparison Cursor.signs) (.ok (orNone s (readComparison? s))) := by
  have hTaken (op : Comparison) {r : List Char} (hr : s = op.text ++ r) (hWord : op.isWord = false)
      (hSign : op ∈ [.less, .greater] → r.head? ≠ some '=') :
      Follows text r s.length (pure (some op)) (.ok (orNone s (readComparison? s))) := by
    have hRead : readComparison? s = some (op, r) :=
      readComparison?_eq_some_iff.2 ⟨hr, fun h => by simp [hWord] at h, hSign⟩
    rw [hRead]
    exact follows_pure (some op) (by simp [hr])
  -- The signs of one character come after those of two, so `=` does not follow them.
  refine follows_token rfl (fun r hr => ?_) fun hEqual => ?_
  · exact hTaken .equal hr rfl (by simp)
  refine follows_token rfl (fun r hr => ?_) fun hNotEqual => ?_
  · exact hTaken .notEqual hr rfl (by simp)
  refine follows_token rfl (fun r hr => ?_) fun hLessEqual => ?_
  · exact hTaken .lessEqual hr rfl (by simp)
  refine follows_token rfl (fun r hr => ?_) fun hGreaterEqual => ?_
  · exact hTaken .greaterEqual hr rfl (by simp)
  refine follows_token rfl (fun r hr => ?_) fun hLess => ?_
  · refine hTaken .less hr rfl fun _ hHead => ?_
    obtain ⟨u, rfl⟩ := List.head?_eq_some_iff.1 hHead
    exact hLessEqual ⟨u, hr.symm⟩
  refine follows_token rfl (fun r hr => ?_) fun hGreater => ?_
  · refine hTaken .greater hr rfl fun _ hHead => ?_
    obtain ⟨u, rfl⟩ := List.head?_eq_some_iff.1 hHead
    exact hGreaterEqual ⟨u, hr.symm⟩
  have hNone : ∀ sign ∈ Cursor.signs, ¬ sign.1 <+: s := by
    simp [Cursor.signs, hEqual, hNotEqual, hLessEqual, hGreaterEqual, hLess, hGreater]
  rw [readComparison?_word hNone]
  exact follows_comparisonWord

section Operators

variable {operand : Cursor Expr} {read : Reading Expr} {k : Nat}
  (hOperand : ∀ u : List Char, u.length ≤ k → Follows text u u.length operand (read u))
include hOperand

theorem follows_compared (hs : s.length ≤ k) :
    Follows text s s.length (Cursor.compared operand) (readCompared read s) := by
  refine (hOperand s hs).bind fun left r hr => ?_
  have hSkip := Text.length_skipBlank_le r
  have hComparison : Follows text (skipBlank r) (skipBlank r).length (Cursor.comparison Cursor.signs)
      (.ok (orNone (skipBlank r) (readComparison? (skipBlank r)))) := follows_comparison
  dsimp only
  cases hRead : readComparison? (skipBlank r) with
  | none =>
    rw [hRead] at hComparison
    exact follows_skip.andThen (hComparison.andThen (follows_pure left (Nat.le_trans hSkip hr)))
  | some result =>
    obtain ⟨op, u⟩ := result
    have hLength := length_le_of_readComparison? hRead
    rw [hRead] at hComparison
    refine follows_skip.andThen (hComparison.andThen ?_)
    refine (hOperand u (by omega)).bind fun right r' hr' => ?_
    exact follows_pure (Expr.compare left op right) (by omega)

theorem follows_negatedWithin (hBlank : ∀ u, read (skipBlank u) = read u) (more : Nat) (hs : s.length ≤ k) :
    Follows text s s.length (Cursor.negatedWithin operand more) (readNegated read more s) := by
  induction more generalizing s with
  | zero => exact hOperand s hs
  | succ more ih =>
    have hSkip := Text.length_skipBlank_le s
    have hRest : Follows text (skipBlank s) s.length operand (read s) := by
      rw [← hBlank]
      exact (hOperand _ (Nat.le_trans hSkip hs)).mono hSkip
    refine follows_skip.andThen (follows_peek.andThen ((follows_peekAt 1).andThen ?_))
    by_cases hNot : (skipBlank s).head? = some '!' ∧ (skipBlank s)[1]? ≠ some '='
    · rw [if_pos hNot]
      obtain ⟨u, hu⟩ := List.head?_eq_some_iff.1 hNot.1
      obtain ⟨b, hb, rfl, -⟩ := exists_blanks_cons hu
      rw [hu, List.length_cons] at hSkip
      rw [hu, List.getElem?_cons_succ, ← List.head?_eq_getElem?] at hNot
      rw [hu, readNegated_not hb hNot.2]
      refine follows_jump.andThen ((ih (s := u) (by omega)).bind fun e r hr => ?_)
      exact follows_pure (Expr.not e) (by omega)
    · rw [if_neg hNot, readNegated_operand fun u hu => ?_]
      · exact hRest
      · simpa [hu, ← List.head?_eq_getElem?] using hNot

theorem follows_chainWithin (sign : Char) (join : Expr → Expr → Expr) (more : Nat) (left : Expr) (hs : s.length ≤ k) :
    Follows text s s.length (Cursor.chainWithin sign join operand more left) (readChain sign join read more left s) := by
  induction more generalizing s left with
  | zero => exact follows_pure left (Nat.le_refl _)
  | succ more ih =>
    have hSkip := Text.length_skipBlank_le s
    rw [readChain]
    refine follows_skip.andThen (follows_token rfl (fun r hr => ?_) fun hOther => ?_)
    · rw [hr, List.length_append, List.length_cons, List.length_singleton] at hSkip
      simp only [hr, List.cons_append, List.nil_append, true_and, if_true]
      refine (hOperand r (by omega)).bind fun right r' hr' => ?_
      exact (ih (join left right) (by omega)).mono (by omega)
    · split
      · rename_i c d u hu
        rw [if_neg ?_, ← hu]
        · exact follows_pure left hSkip
        · rintro ⟨rfl, rfl⟩
          exact hOther ⟨u, hu.symm⟩
      · exact follows_pure left hSkip

theorem follows_joined (sign : Char) (join : Expr → Expr → Expr) (hs : s.length ≤ k) :
    Follows text s s.length (Cursor.joined sign join operand) (readJoined sign join read s) := by
  refine (hOperand s hs).bind fun left r hr => follows_remaining.andThen ?_
  exact (follows_chainWithin hOperand sign join r.length left (Nat.le_trans hr hs)).mono hr

end Operators

/-! ## Nesting -/

theorem readPrimary_skipBlank (expr : Reading Expr) (known : String → Bool) (s : List Char) :
    readPrimary expr known (skipBlank s) = readPrimary expr known s := by
  simp [readPrimary]

theorem readCompared_skipBlank (expr : Reading Expr) (known : String → Bool) (s : List Char) :
    readCompared (readPrimary expr known) (skipBlank s) = readCompared (readPrimary expr known) s := by
  rw [readCompared, readPrimary_skipBlank, readCompared]

theorem follows_disjunction {expr : Cursor Expr} {read : Reading Expr} {k : Nat}
    (hExpr : ∀ u : List Char, u.length < k → Follows text u u.length expr (read u)) (hs : s.length ≤ k) :
    Follows text s s.length (Cursor.disjunction (Cursor.primary expr known)) (readDisjunction (readPrimary read known) s) := by
  have hCompared (u : List Char) (hu : u.length ≤ k) : Follows text u u.length
      (Cursor.compared (Cursor.primary expr known)) (readCompared (readPrimary read known) u) :=
    follows_compared (fun v hv => follows_primary hExpr hv) hu
  have hNegated (u : List Char) (hu : u.length ≤ k) : Follows text u u.length
      (Cursor.negated (Cursor.compared (Cursor.primary expr known)))
      (readNegated (readCompared (readPrimary read known)) u.length u) :=
    follows_remaining.andThen (follows_negatedWithin hCompared (readCompared_skipBlank read known) u.length hu)
  exact follows_joined (fun u hu => follows_joined hNegated '&' .and hu) '|' .or hs

theorem follows_expr (depth : Nat) (hs : s.length ≤ depth) :
    Follows text s s.length (Cursor.expr known depth) (readExpr known depth s) := by
  induction depth generalizing s with
  | zero =>
    obtain rfl := List.eq_nil_of_length_eq_zero (Nat.le_zero.1 hs)
    exact follows_failHere .expression (by simp)
  | succ depth ih => exact follows_disjunction (fun u hu => ih (Nat.le_of_lt_succ hu)) hs

/-! ## Queries -/

/-- Reading a query, the cursor comes to the end of the text. -/
theorem follows_query : Follows text text text.length (Cursor.query known)
    ((readQuery known text).map fun segments => (segments, [])) := by
  have hSkip := Text.length_skipBlank_le text
  unfold readQuery
  refine follows_skip.andThen (follows_sign (fun u hu => ?_) fun hOther => ?_)
  · rw [hu, List.length_cons] at hSkip
    simp only [hu, map_bind_eq]
    have hExpr (v : List Char) (hv : v.length < u.length) :
        Follows text v v.length (Cursor.expr known u.length) (readExpr known u.length v) :=
      follows_expr u.length (Nat.le_of_lt hv)
    refine follows_remaining.andThen ((follows_segments hExpr (Nat.le_refl _)).bind fun segments r hr => ?_)
    refine follows_skip.andThen (follows_peek.andThen ?_)
    have hBlank := isBlank_head_skipBlank r
    dsimp only
    cases hRest : skipBlank r with
    | nil => exact follows_pure segments (Nat.zero_le _)
    | cons c v =>
      rw [hRest] at hBlank
      exact follows_failHere .endOfQuery hBlank
  · split
    · rename_i u hu
      exact absurd (congrArg List.head? hu) hOther
    · exact follows_malformed .noRoot

end TemplateQuery.Query
