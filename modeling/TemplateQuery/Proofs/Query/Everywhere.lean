import TemplateQuery.Query.Path

/-!
# Properties that hold everywhere in a query

Segments hold expressions and expressions hold segments. A pair of rules, one for each, can be asked of every segment
and every expression of a query at any depth, and one induction serves both.
-/
namespace TemplateQuery.Query

/-! ## Induction -/

/-- The cases of an induction over segments and expressions at once. -/
structure Hereditary (P : Segment → Prop) (Q : Expr → Prop) : Prop where
  child : ∀ name, P (.child name)
  index : ∀ position, P (.index position)
  wildcard : P .wildcard
  descend : ∀ selector, P selector → P (.descend selector)
  slice : ∀ start stop step, P (.slice start stop step)
  union : ∀ selectors, (∀ s ∈ selectors, P s) → P (.union selectors)
  filter : ∀ test, Q test → P (.filter test)
  literal : ∀ value, Q (.literal value)
  path : ∀ root segments, (∀ s ∈ segments, P s) → Q (.path root segments)
  call : ∀ name arguments, (∀ e ∈ arguments, Q e) → Q (.call name arguments)
  not : ∀ operand, Q operand → Q (.not operand)
  and : ∀ left right, Q left → Q right → Q (.and left right)
  or : ∀ left right, Q left → Q right → Q (.or left right)
  compare : ∀ left op right, Q left → Q right → Q (.compare left op right)

section Induction

variable {P : Segment → Prop} {Q : Expr → Prop}

mutual

theorem Hereditary.segment (h : Hereditary P Q) : ∀ s, P s
  | .child name => h.child name
  | .index position => h.index position
  | .wildcard => h.wildcard
  | .descend selector => h.descend selector (h.segment selector)
  | .slice start stop step => h.slice start stop step
  | .union selectors => h.union selectors (h.segments selectors)
  | .filter test => h.filter test (h.expr test)
termination_by structural s => s

theorem Hereditary.segments (h : Hereditary P Q) : ∀ segments : List Segment, ∀ s ∈ segments, P s
  | [] => List.forall_mem_nil P
  | s :: rest => List.forall_mem_cons.2 ⟨h.segment s, h.segments rest⟩
termination_by structural segments => segments

theorem Hereditary.expr (h : Hereditary P Q) : ∀ e, Q e
  | .literal value => h.literal value
  | .path root segments => h.path root segments (h.segments segments)
  | .call name arguments => h.call name arguments (h.exprs arguments)
  | .not operand => h.not operand (h.expr operand)
  | .and left right => h.and left right (h.expr left) (h.expr right)
  | .or left right => h.or left right (h.expr left) (h.expr right)
  | .compare left op right => h.compare left op right (h.expr left) (h.expr right)
termination_by structural e => e

theorem Hereditary.exprs (h : Hereditary P Q) : ∀ exprs : List Expr, ∀ e ∈ exprs, Q e
  | [] => List.forall_mem_nil Q
  | e :: rest => List.forall_mem_cons.2 ⟨h.expr e, h.exprs rest⟩
termination_by structural exprs => exprs

end

end Induction

/-! ## Rules -/

/-- What is asked of a segment and of an expression, apart from what stands inside them. -/
structure Rules where
  segment : Segment → Prop
  expr : Expr → Prop

mutual

/-- The rules hold of the segment and of everything inside it. -/
def Segment.Everywhere (rules : Rules) : Segment → Prop
  | .child name => rules.segment (.child name)
  | .index position => rules.segment (.index position)
  | .wildcard => rules.segment .wildcard
  | .descend selector => rules.segment (.descend selector) ∧ selector.Everywhere rules
  | .slice start stop step => rules.segment (.slice start stop step)
  | .union selectors => rules.segment (.union selectors) ∧ EverywhereOn rules selectors
  | .filter test => rules.segment (.filter test) ∧ test.Everywhere rules
termination_by structural s => s

def EverywhereOn (rules : Rules) : List Segment → Prop
  | [] => True
  | s :: rest => s.Everywhere rules ∧ EverywhereOn rules rest
termination_by structural segments => segments

/-- The rules hold of the expression and of everything inside it. -/
def Expr.Everywhere (rules : Rules) : Expr → Prop
  | .literal value => rules.expr (.literal value)
  | .path root segments => rules.expr (.path root segments) ∧ EverywhereOn rules segments
  | .call name arguments => rules.expr (.call name arguments) ∧ EverywhereIn rules arguments
  | .not operand => rules.expr (.not operand) ∧ operand.Everywhere rules
  | .and left right => rules.expr (.and left right) ∧ left.Everywhere rules ∧ right.Everywhere rules
  | .or left right => rules.expr (.or left right) ∧ left.Everywhere rules ∧ right.Everywhere rules
  | .compare left op right =>
    rules.expr (.compare left op right) ∧ left.Everywhere rules ∧ right.Everywhere rules
termination_by structural e => e

def EverywhereIn (rules : Rules) : List Expr → Prop
  | [] => True
  | e :: rest => e.Everywhere rules ∧ EverywhereIn rules rest
termination_by structural exprs => exprs

end

theorem everywhereOn_iff (rules : Rules) (segments : List Segment) :
    EverywhereOn rules segments ↔ ∀ s ∈ segments, s.Everywhere rules := by
  induction segments with
  | nil => simp [EverywhereOn]
  | cons s rest ih => simp [EverywhereOn, ih]

theorem everywhereIn_iff (rules : Rules) (exprs : List Expr) :
    EverywhereIn rules exprs ↔ ∀ e ∈ exprs, e.Everywhere rules := by
  induction exprs with
  | nil => simp [EverywhereIn]
  | cons e rest ih => simp [EverywhereIn, ih]

/-- Weaker rules hold wherever stronger ones do. -/
theorem everywhere_mono {rules rules' : Rules} (hSegment : ∀ s, rules.segment s → rules'.segment s)
    (hExpr : ∀ e, rules.expr e → rules'.expr e) :
    Hereditary (fun s => s.Everywhere rules → s.Everywhere rules') (fun e => e.Everywhere rules → e.Everywhere rules')
    where
  child _ := hSegment _
  index _ := hSegment _
  wildcard := hSegment _
  descend _ ih h := ⟨hSegment _ h.1, ih h.2⟩
  slice _ _ _ := hSegment _
  union selectors ih h := by
    refine ⟨hSegment _ h.1, (everywhereOn_iff _ _).2 fun s hs => ih s hs ?_⟩
    exact (everywhereOn_iff _ _).1 h.2 s hs
  filter _ ih h := ⟨hSegment _ h.1, ih h.2⟩
  literal _ := hExpr _
  path root segments ih h := by
    refine ⟨hExpr _ h.1, (everywhereOn_iff _ _).2 fun s hs => ih s hs ?_⟩
    exact (everywhereOn_iff _ _).1 h.2 s hs
  call name arguments ih h := by
    refine ⟨hExpr _ h.1, (everywhereIn_iff _ _).2 fun e he => ih e he ?_⟩
    exact (everywhereIn_iff _ _).1 h.2 e he
  not _ ih h := ⟨hExpr _ h.1, ih h.2⟩
  and _ _ ihl ihr h := ⟨hExpr _ h.1, ihl h.2.1, ihr h.2.2⟩
  or _ _ ihl ihr h := ⟨hExpr _ h.1, ihl h.2.1, ihr h.2.2⟩
  compare _ _ _ ihl ihr h := ⟨hExpr _ h.1, ihl h.2.1, ihr h.2.2⟩

theorem EverywhereOn.mono {rules rules' : Rules} (hSegment : ∀ s, rules.segment s → rules'.segment s)
    (hExpr : ∀ e, rules.expr e → rules'.expr e) {segments : List Segment} (h : EverywhereOn rules segments) :
    EverywhereOn rules' segments := by
  rw [everywhereOn_iff] at h ⊢
  exact fun s hs => (everywhere_mono hSegment hExpr).segment s (h s hs)

/-! ## Calls -/

/-- The name of a call has a property. -/
def Expr.CallsOnly (allowed : String → Prop) : Expr → Prop
  | .call name _ => allowed name
  | _ => True

/-- Only functions whose name has a property are called. -/
def callsOnly (allowed : String → Prop) : Rules := ⟨fun _ => True, Expr.CallsOnly allowed⟩

end TemplateQuery.Query
