import TemplateQuery.Proofs.Query.Cursor.Words
import TemplateQuery.Proofs.Query.UnfinishedSegments

/-!
# Segments at a position

The cursor follows the readers of lists and segments, if it follows that of expressions on shorter texts.
-/
namespace TemplateQuery.Query

open Text (skipBlank)

variable {α : Type} {text s : List Char}

/-! ## Lists -/

section Lists

variable {item : Cursor α} {read : Reading α} {k : Nat}
  (hItem : ∀ u : List Char, u.length ≤ k → Follows text u u.length item (read u))
include hItem

theorem follows_listWithin (more : Nat) (hs : s.length ≤ k) :
    Follows text s s.length (Cursor.listWithin item more) (commaList read more s) := by
  induction more generalizing s with
  | zero => exact (hItem s hs).bind fun x r hr => follows_pure [x] hr
  | succ more ih =>
    refine (hItem s hs).bind fun x r hr => ?_
    have hSkip := Nat.le_trans (Text.length_skipBlank_le r) hr
    refine follows_skip.andThen (follows_sign (fun u hu => ?_) fun hOther => ?_)
    · rw [hu, List.length_cons] at hSkip
      simp only [hu]
      exact (ih (s := u) (by omega)).bind fun xs r' hr' => follows_pure (x :: xs) (by omega)
    · dsimp only
      split
      · rename_i u hu
        exact absurd (congrArg List.head? hu) hOther
      · exact follows_pure [x] hSkip

theorem follows_list (hs : s.length ≤ k) : Follows text s s.length (Cursor.list item) (commaList read s.length s) :=
  follows_remaining.andThen (follows_listWithin hItem s.length hs)

end Lists

theorem follows_literals : Follows text s s.length Cursor.literals (readList s) := by
  have hSkip := Text.length_skipBlank_le s
  unfold readList
  refine follows_skip.andThen (follows_sign (fun u hu => ?_) fun hOther => ?_)
  · rw [hu, List.length_cons] at hSkip
    simp only [hu]
    exact follows_pure _ (by omega)
  · have hItem (u : List Char) (_ : u.length ≤ (skipBlank s).length) :
        Follows text u u.length (do
          Cursor.skip
          Cursor.literal) (readLiteral (skipBlank u)) :=
      follows_skip.andThen ((follows_literal (isBlank_head_skipBlank u)).mono (Text.length_skipBlank_le u))
    split
    · rename_i u hu
      exact absurd (congrArg List.head? hu) hOther
    · refine (follows_list hItem (Nat.le_refl _)).bind fun items r hr => ?_
      exact Follows.afterExpect fun r' hr' => follows_pure (Json.array items) (by omega)

/-! ## Segments -/

theorem follows_bound : Follows text s s.length Cursor.bound (readBound s) := by
  refine follows_peek.andThen ?_
  cases s with
  | nil => exact follows_pure none (Nat.le_refl _)
  | cons c s =>
    simp only [List.head?_cons, readBound]
    split_ifs
    · exact follows_integer.bind fun i r hr => follows_pure (some i) hr
    · exact follows_pure none (Nat.le_refl _)

theorem follows_slice (start : Option Int) : Follows text s s.length (Cursor.slice start) (readSlice start s) := by
  have hSkip := Text.length_skipBlank_le s
  refine follows_skip.andThen (follows_bound.bind fun stop r hr => ?_)
  have hSkip' := Text.length_skipBlank_le r
  refine follows_skip.andThen (follows_sign (fun u hu => ?_) fun hOther => ?_)
  · have hSkip'' := Text.length_skipBlank_le u
    rw [hu, List.length_cons] at hSkip'
    simp only [hu]
    exact follows_skip.andThen (follows_bound.bind fun step r' hr' => follows_pure _ (by omega))
  · dsimp only
    split
    · rename_i u hu
      exact absurd (congrArg List.head? hu) hOther
    · exact follows_pure _ (by omega)

theorem follows_child : Follows text s s.length Cursor.child (readChild s) :=
  follows_name.bind fun name _ hr => follows_pure (Segment.child name) hr

section Nested

variable {expr : Cursor Expr} {read : Reading Expr} {k : Nat}
  (hExpr : ∀ u : List Char, u.length < k → Follows text u u.length expr (read u))
include hExpr

theorem follows_selector (hs : s.length ≤ k) :
    Follows text s s.length (Cursor.selector expr) (readSelector read s) := by
  have hSkip := Text.length_skipBlank_le s
  refine follows_skip.andThen (follows_peek.andThen ?_)
  unfold readSelector
  cases hText : skipBlank s with
  | nil => exact follows_ended .selector
  | cons c u =>
    rw [hText, List.length_cons] at hSkip
    have hBlank := Text.skipBlank_eq_cons hText
    simp only [List.head?_cons]
    split_ifs with hWildcard hQuote hFilter hColon hNumber
    · exact follows_jump.andThen (follows_pure _ (by omega))
    · exact follows_jump.andThen ((follows_string c).bind fun name r hr => follows_pure _ (by omega))
    · exact follows_jump.andThen ((hExpr u (by omega)).bind fun e r hr => follows_pure _ (by omega))
    · exact follows_jump.andThen ((follows_slice none).mono (by omega))
    · refine follows_integer.bind fun i r hr => ?_
      have hSkip' := Text.length_skipBlank_le r
      rw [List.length_cons] at hr
      refine follows_skip.andThen (follows_sign (fun v hv => ?_) fun hOther => ?_)
      · rw [hv, List.length_cons] at hSkip'
        simp only [hv]
        exact (follows_slice (some i)).mono (by omega)
      · dsimp only
        split
        · rename_i v hv
          exact absurd (congrArg List.head? hv) hOther
        · exact follows_pure _ (by omega)
    · exact follows_failHere .selector (by simpa using hBlank)

theorem follows_bracket (hs : s.length ≤ k) :
    Follows text s s.length (Cursor.bracket expr) (readBracket read s) := by
  refine (follows_list (fun u hu => follows_selector hExpr hu) hs).bind fun selectors r hr => ?_
  refine Follows.afterExpect fun r' hr' => ?_
  have hLength := Nat.le_trans hr' hr
  match selectors with
  | [] => exact follows_pure (Segment.union []) hLength
  | [selector] => exact follows_pure selector hLength
  | first :: second :: more => exact follows_pure (Segment.union (first :: second :: more)) hLength

theorem follows_descent (hs : s.length ≤ k) :
    Follows text s s.length (Cursor.descent expr) (readDescent read s) := by
  unfold readDescent
  refine follows_sign ?_ fun hBracket => follows_sign ?_ fun hStar => ?_
  · rintro u rfl
    refine (follows_bracket hExpr (Nat.le_of_succ_le hs)).bind fun selector r hr => ?_
    exact follows_pure (Segment.descend selector) (Nat.le_succ_of_le hr)
  · rintro u rfl
    exact follows_pure (Segment.descend .wildcard) (Nat.le_succ _)
  · split
    · exact absurd rfl hBracket
    · exact absurd rfl hStar
    · exact follows_child.bind fun selector r hr => follows_pure (Segment.descend selector) hr

theorem follows_dotted (hs : s.length ≤ k) :
    Follows text s s.length (Cursor.dotted expr) (readDotted read s) := by
  unfold readDotted
  refine follows_sign ?_ fun hDot => follows_sign ?_ fun hStar => ?_
  · rintro u rfl
    exact (follows_descent hExpr (Nat.le_of_succ_le hs)).mono (Nat.le_succ _)
  · rintro u rfl
    exact follows_pure Segment.wildcard (Nat.le_succ _)
  · split
    · exact absurd rfl hDot
    · exact absurd rfl hStar
    · exact follows_child

theorem follows_segmentsWithin (more : Nat) (hs : s.length ≤ k) :
    Follows text s s.length (Cursor.segmentsWithin expr more) (readSegments read more s) := by
  induction more generalizing s with
  | zero => exact follows_pure [] (Nat.le_refl _)
  | succ more ih =>
    have hSkip := Text.length_skipBlank_le s
    have hMore (segment : Segment) (r : List Char) (hr : r.length ≤ s.length) :
        Follows text r s.length (do
          let segments ← Cursor.segmentsWithin expr more
          return segment :: segments) (readSegments read more r >>= fun next => .ok (segment :: next.1, next.2)) :=
      (ih (Nat.le_trans hr hs)).bind fun segments r' hr' => follows_pure (segment :: segments) (Nat.le_trans hr' hr)
    rw [readSegments]
    refine follows_position fun start hStart hWithin => follows_skip.andThen ?_
    refine follows_sign (fun u hu => ?_) fun hDot => follows_sign (fun u hu => ?_) fun hBracket => ?_
    · rw [hu, List.length_cons] at hSkip
      simp only [hu]
      exact (follows_dotted hExpr (by omega)).bind fun segment r hr => hMore segment r (by omega)
    · rw [hu, List.length_cons] at hSkip
      simp only [hu]
      exact (follows_bracket hExpr (by omega)).bind fun segment r hr => hMore segment r (by omega)
    · split
      · rename_i u hu
        exact absurd (congrArg List.head? hu) hDot
      · rename_i u hu
        exact absurd (congrArg List.head? hu) hBracket
      · exact (follows_goTo hStart hWithin hSkip).andThen (follows_pure [] (Nat.le_refl _))

theorem follows_segments (hs : s.length ≤ k) :
    Follows text s s.length (Cursor.segments expr) (readSegments read s.length s) :=
  follows_remaining.andThen (follows_segmentsWithin hExpr s.length hs)

theorem follows_path (root : Root) (hs : s.length ≤ k) :
    Follows text s s.length (Cursor.path expr root) (readPath read root s) :=
  (follows_segments hExpr hs).bind fun segments _ hr => follows_pure (Expr.path root segments) hr

end Nested

end TemplateQuery.Query
