import Mathlib.Tactic.SplitIfs
import TemplateQuery.Proofs.Query.Everywhere
import TemplateQuery.Proofs.Steps
import TemplateQuery.Query.Selection

/-!
# What the reader builds

A reader yields values of some kind if all its results are of that kind, whatever text it is given. Level by level, the
readers of the grammar yield well-shaped queries: unions join at least two plain selectors, one descent never stands
directly under another, and calls name known functions.
-/
namespace TemplateQuery.Query

/-! ## Shape -/

def Segment.isUnion : Segment → Bool
  | .union _ => true
  | _ => false

def Segment.isDescent : Segment → Bool
  | .descend _ => true
  | _ => false

/-- A selector that can stand beside others in one bracket. -/
def Segment.IsPlain (s : Segment) : Prop := s.isUnion = false ∧ s.isDescent = false

/-- What a union joins and what a descent leads to, apart from what stands inside. -/
def Segment.WellShaped : Segment → Prop
  | .union selectors => 2 ≤ selectors.length ∧ ∀ s ∈ selectors, s.IsPlain
  | .descend selector => selector.isDescent = false
  | _ => True

/-- The shape of queries that call functions of a table only. -/
def FunctionTable.shape (functions : FunctionTable) : Rules :=
  ⟨Segment.WellShaped, Expr.CallsOnly fun name => functions.knows name = true⟩

/-! ## Readers -/

/-- A result whose value, if there is one, has a property. -/
def Gives {α : Type} (P : α → Prop) (x : Except Fault (α × List Char)) : Prop := ∀ a rest, x = .ok (a, rest) → P a

section Results

variable {α β : Type} {P : α → Prop} {Q : β → Prop}

theorem gives_ok {a : α} {rest : List Char} (h : P a) : Gives P (.ok (a, rest)) := by
  intro a' rest' h'
  cases h'
  exact h

theorem gives_error (fault : Fault) : Gives P (.error fault) := by
  intro a rest h
  cases h

theorem Gives.bind {x : Except Fault (α × List Char)} {f : α × List Char → Except Fault (β × List Char)}
    (hx : Gives P x) (hf : ∀ a rest, P a → Gives Q (f (a, rest))) : Gives Q (x >>= f) := by
  intro b rest h
  obtain ⟨⟨a, s⟩, ha, hb⟩ := bind_eq_ok.1 h
  exact hf a s (hx a s ha) b rest hb

/-- What a step gives whose value does not matter for what comes next. -/
theorem gives_bind {x : Except Fault α} {f : α → Except Fault (β × List Char)} (hf : ∀ a, Gives Q (f a)) :
    Gives Q (x >>= f) := by
  intro b rest h
  obtain ⟨a, -, hb⟩ := bind_eq_ok.1 h
  exact hf a b rest hb

theorem gives_commaList {item : Reading α} (h : ∀ s, Gives P (item s)) (more : Nat) (s : List Char) :
    Gives (fun xs => xs ≠ [] ∧ ∀ x ∈ xs, P x) (commaList item more s) := by
  induction more generalizing s with
  | zero => exact (h s).bind fun x rest hx => gives_ok ⟨List.cons_ne_nil x [], by simpa using hx⟩
  | succ more ih =>
    refine (h s).bind fun x rest hx => ?_
    dsimp only
    split
    · refine (ih _).bind fun xs rest hxs => gives_ok ⟨List.cons_ne_nil x xs, ?_⟩
      exact List.forall_mem_cons.2 ⟨hx, hxs.2⟩
    · exact gives_ok ⟨List.cons_ne_nil x [], by simpa using hx⟩

end Results

/-! ## Segments -/

section Segments

variable {functions : FunctionTable} {expr : Reading Expr}

theorem gives_readSlice (start : Option Int) (s : List Char) :
    Gives (fun x => x.Everywhere functions.shape ∧ x.IsPlain) (readSlice start s) := by
  refine gives_bind fun bound => ?_
  dsimp only
  split
  · exact gives_bind fun step => gives_ok ⟨trivial, rfl, rfl⟩
  · exact gives_ok ⟨trivial, rfl, rfl⟩

theorem gives_readSelector (h : ∀ s, Gives (Expr.Everywhere functions.shape) (expr s)) (s : List Char) :
    Gives (fun x => x.Everywhere functions.shape ∧ x.IsPlain) (readSelector expr s) := by
  unfold readSelector
  split
  · exact gives_error _
  · rename_i c rest hs
    split_ifs
    · exact gives_ok ⟨trivial, rfl, rfl⟩
    · exact gives_bind fun name => gives_ok ⟨trivial, rfl, rfl⟩
    · exact (h rest).bind fun e rest he => gives_ok ⟨⟨trivial, he⟩, rfl, rfl⟩
    · exact gives_readSlice none rest
    · refine gives_bind fun i => ?_
      dsimp only
      split
      · exact gives_readSlice _ _
      · exact gives_ok ⟨trivial, rfl, rfl⟩
    · exact gives_error _

theorem gives_readBracket (h : ∀ s, Gives (Expr.Everywhere functions.shape) (expr s)) (s : List Char) :
    Gives (fun x => x.Everywhere functions.shape ∧ x.isDescent = false) (readBracket expr s) := by
  refine (gives_commaList (gives_readSelector h) s.length s).bind fun selectors rest hSelectors => ?_
  refine gives_bind fun rest => ?_
  split
  · rename_i selector
    have hSelector := hSelectors.2 selector (List.mem_singleton.2 rfl)
    exact gives_ok ⟨hSelector.1, hSelector.2.2⟩
  · rename_i hNotOne
    refine gives_ok ⟨⟨⟨?_, fun s hs => (hSelectors.2 s hs).2⟩, ?_⟩, rfl⟩
    · rcases selectors with _ | ⟨x, _ | ⟨y, rest⟩⟩
      · exact absurd rfl hSelectors.1
      · exact absurd rfl (hNotOne x)
      · simp
    · exact (everywhereOn_iff _ _).2 fun s hs => (hSelectors.2 s hs).1

theorem gives_readChild (s : List Char) :
    Gives (fun x => x.Everywhere functions.shape ∧ x.isDescent = false) (readChild s) :=
  gives_bind fun _ => gives_ok ⟨trivial, rfl⟩

theorem gives_readDescent (h : ∀ s, Gives (Expr.Everywhere functions.shape) (expr s)) (s : List Char) :
    Gives (Segment.Everywhere functions.shape) (readDescent expr s) := by
  unfold readDescent
  dsimp only
  split
  · exact (gives_readBracket h _).bind fun selector rest hSelector => gives_ok ⟨hSelector.2, hSelector.1⟩
  · exact gives_ok ⟨rfl, trivial⟩
  · exact (gives_readChild _).bind fun selector rest hSelector => gives_ok ⟨hSelector.2, hSelector.1⟩

theorem gives_readDotted (h : ∀ s, Gives (Expr.Everywhere functions.shape) (expr s)) (s : List Char) :
    Gives (Segment.Everywhere functions.shape) (readDotted expr s) := by
  unfold readDotted
  split
  · exact gives_readDescent h _
  · exact gives_ok trivial
  · exact fun x rest hx => (gives_readChild s x rest hx).1

theorem gives_readSegments (h : ∀ s, Gives (Expr.Everywhere functions.shape) (expr s)) (more : Nat) (s : List Char) :
    Gives (EverywhereOn functions.shape) (readSegments expr more s) := by
  induction more generalizing s with
  | zero => exact gives_ok trivial
  | succ more ih =>
    rw [readSegments]
    split
    · refine (gives_readDotted h _).bind fun segment rest hSegment => ?_
      exact (ih rest).bind fun segments rest hSegments => gives_ok ⟨hSegment, hSegments⟩
    · refine (gives_readBracket h _).bind fun segment rest hSegment => ?_
      exact (ih rest).bind fun segments rest hSegments => gives_ok ⟨hSegment.1, hSegments⟩
    · exact gives_ok trivial

end Segments

/-! ## Expressions -/

section Expressions

variable {functions : FunctionTable} {expr : Reading Expr}

theorem gives_readPath (h : ∀ s, Gives (Expr.Everywhere functions.shape) (expr s)) (root : Root) (s : List Char) :
    Gives (Expr.Everywhere functions.shape) (readPath expr root s) :=
  (gives_readSegments h _ _).bind fun _ _ hSegments => gives_ok ⟨trivial, hSegments⟩

theorem gives_readCall (h : ∀ s, Gives (Expr.Everywhere functions.shape) (expr s)) {name : String}
    (known : functions.knows name = true) (s : List Char) :
    Gives (Expr.Everywhere functions.shape) (readCall expr name s) := by
  unfold readCall
  split
  · exact gives_ok ⟨known, trivial⟩
  · refine (gives_commaList h _ _).bind fun arguments rest hArguments => gives_bind fun rest => ?_
    exact gives_ok ⟨known, (everywhereIn_iff _ _).2 hArguments.2⟩

theorem gives_readWord (h : ∀ s, Gives (Expr.Everywhere functions.shape) (expr s)) (s : List Char) :
    Gives (Expr.Everywhere functions.shape) (readWord expr functions.knows s) := by
  refine gives_bind fun ⟨name, rest⟩ => ?_
  dsimp only
  split_ifs with hTrue hFalse hNull known
  · exact gives_ok trivial
  · exact gives_ok trivial
  · exact gives_ok trivial
  · split
    · exact gives_readCall h known _
    · exact gives_error _
  · split <;> exact gives_error _

theorem gives_readPrimary (h : ∀ s, Gives (Expr.Everywhere functions.shape) (expr s)) (s : List Char) :
    Gives (Expr.Everywhere functions.shape) (readPrimary expr functions.knows s) := by
  unfold readPrimary
  split
  · exact gives_error _
  · rename_i c rest hs
    split_ifs
    · exact (h rest).bind fun e rest he => gives_bind fun _ => gives_ok he
    · exact gives_readPath h _ _
    · exact gives_readPath h _ _
    · exact gives_readPath h _ _
    · exact gives_bind fun _ => gives_ok trivial
    · exact gives_readWord h _
    · exact gives_bind fun _ => gives_ok trivial

theorem gives_readCompared {primary : Reading Expr} (h : ∀ s, Gives (Expr.Everywhere functions.shape) (primary s))
    (s : List Char) : Gives (Expr.Everywhere functions.shape) (readCompared primary s) := by
  refine (h s).bind fun left rest hLeft => ?_
  dsimp only
  split
  · exact (h _).bind fun right rest hRight => gives_ok ⟨trivial, hLeft, hRight⟩
  · exact gives_ok hLeft

theorem gives_readNegated {operand : Reading Expr} (h : ∀ s, Gives (Expr.Everywhere functions.shape) (operand s))
    (more : Nat) (s : List Char) : Gives (Expr.Everywhere functions.shape) (readNegated operand more s) := by
  induction more generalizing s with
  | zero => exact h s
  | succ more ih =>
    rw [readNegated]
    split
    · exact h s
    · exact (ih _).bind fun e rest he => gives_ok ⟨trivial, he⟩
    · exact h s

theorem gives_readChain {sign : Char} {join : Expr → Expr → Expr} {operand : Reading Expr}
    (hJoin : ∀ left right, left.Everywhere functions.shape → right.Everywhere functions.shape →
      (join left right).Everywhere functions.shape)
    (h : ∀ s, Gives (Expr.Everywhere functions.shape) (operand s)) (more : Nat) (left : Expr) (s : List Char)
    (hLeft : left.Everywhere functions.shape) :
    Gives (Expr.Everywhere functions.shape) (readChain sign join operand more left s) := by
  induction more generalizing left s with
  | zero => exact gives_ok hLeft
  | succ more ih =>
    rw [readChain]
    split
    · split_ifs
      · exact (h _).bind fun right rest hRight => ih _ _ (hJoin left right hLeft hRight)
      · exact gives_ok hLeft
    · exact gives_ok hLeft

theorem gives_readJoined {sign : Char} {join : Expr → Expr → Expr} {operand : Reading Expr}
    (hJoin : ∀ left right, left.Everywhere functions.shape → right.Everywhere functions.shape →
      (join left right).Everywhere functions.shape)
    (h : ∀ s, Gives (Expr.Everywhere functions.shape) (operand s)) (s : List Char) :
    Gives (Expr.Everywhere functions.shape) (readJoined sign join operand s) :=
  (h s).bind fun left rest hLeft => gives_readChain hJoin h _ left rest hLeft

theorem gives_readExpr (depth : Nat) (s : List Char) :
    Gives (Expr.Everywhere functions.shape) (readExpr functions.knows depth s) := by
  induction depth generalizing s with
  | zero => exact gives_error _
  | succ depth ih =>
    have hAnd (left right : Expr) (hl : left.Everywhere functions.shape) (hr : right.Everywhere functions.shape) :
        (Expr.and left right).Everywhere functions.shape := ⟨trivial, hl, hr⟩
    have hOr (left right : Expr) (hl : left.Everywhere functions.shape) (hr : right.Everywhere functions.shape) :
        (Expr.or left right).Everywhere functions.shape := ⟨trivial, hl, hr⟩
    have hCompared := gives_readCompared (gives_readPrimary ih)
    have hNegated (s : List Char) := gives_readNegated hCompared s.length s
    exact gives_readJoined hOr (gives_readJoined hAnd hNegated) s

end Expressions

/-! ## Queries -/

theorem readQuery_wellShaped {functions : FunctionTable} {s : List Char} {segments : List Segment}
    (h : readQuery functions.knows s = .ok segments) : EverywhereOn functions.shape segments := by
  unfold readQuery at h
  split at h
  · obtain ⟨⟨segments', rest⟩, hRead, hEnd⟩ := bind_eq_ok.1 h
    dsimp only at hEnd
    split at hEnd
    · cases hEnd
      exact gives_readSegments (gives_readExpr _) _ _ segments rest hRead
    · cases hEnd
  · cases h

theorem compile_eq_ok {functions : FunctionTable} {source : String} {query : Compiled}
    (h : compile functions source = .ok query) :
    readQuery functions.knows source.toList = .ok query.segments ∧ query.source = source ∧
      query.functions = functions := by
  simp only [compile] at h
  split at h
  · rename_i segments hRead
    cases h
    exact ⟨hRead, rfl, rfl⟩
  · cases h

end TemplateQuery.Query
