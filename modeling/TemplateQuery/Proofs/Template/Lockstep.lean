import TemplateQuery.Proofs.Template.Output
import TemplateQuery.Template.Basic

/-!
# Two renders in lockstep

Two environments that agree on every output statement and on the items of every loop agree on whole templates, even if
the loops of the two templates have different headers. The first error of an excepted kind in the first render ends the
comparison: nothing is said about the second render from there on.
-/
namespace TemplateQuery.Template

/-- Two results are the same, unless the first one is an error of a kind. -/
def SameUnless (kind : Error → Prop) {α : Type} (x y : Except Error α) : Prop :=
  x = y ∨ ∃ e, kind e ∧ x = .error e

/-- Two outcomes are the same, unless the first one ends with an error of a kind. -/
def Outcome.SameUnless (kind : Error → Prop) (x y : Outcome) : Prop :=
  x = y ∨ ∃ e, kind e ∧ x.2 = .error e

section Results

variable {kind : Error → Prop} {α β : Type}

theorem SameUnless.refl (x : Except Error α) : SameUnless kind x x := Or.inl rfl

/-- If no error is excepted, the results are the same. -/
theorem sameUnless_false {x y : Except Error α} : SameUnless (fun _ => False) x y ↔ x = y := by
  simp [SameUnless]

theorem SameUnless.bind {x y : Except Error α} {f g : α → Except Error β} (hxy : SameUnless kind x y)
    (hfg : ∀ a, SameUnless kind (f a) (g a)) : SameUnless kind (x >>= f) (y >>= g) := by
  rcases hxy with rfl | ⟨e, he, rfl⟩
  · cases x with
    | error e => exact .refl _
    | ok a => exact hfg a
  · exact Or.inr ⟨e, he, rfl⟩

/-- A text in the first run is the text of the second one. -/
theorem SameUnless.ok_right {x y : Except Error α} {a : α} (h : SameUnless kind x y) (hx : x = .ok a) : y = .ok a := by
  rcases h with rfl | ⟨e, -, he⟩
  · exact hx
  · cases hx.symm.trans he

namespace Outcome.SameUnless

theorem refl (x : Outcome) : SameUnless kind x x := Or.inl rfl

theorem andThen {x y : Outcome} {next next' : Progress → Outcome} (hxy : SameUnless kind x y)
    (hnext : ∀ p, SameUnless kind (next p) (next' p)) : SameUnless kind (x.andThen next) (y.andThen next') := by
  rcases x with ⟨p, _ | ⟨⟨⟩⟩⟩
  · rcases hxy with rfl | ⟨e, he, hx⟩
    · exact refl _
    · exact Or.inr ⟨e, he, hx⟩
  · rcases hxy with rfl | ⟨e, -, hx⟩
    · exact hnext p
    · cases hx

theorem closeScope {x y : Outcome} (hxy : SameUnless kind x y) : SameUnless kind x.closeScope y.closeScope := by
  rcases hxy with rfl | ⟨e, he, hx⟩
  · exact refl _
  · exact Or.inr ⟨e, he, hx⟩

theorem resultOf {x y : Outcome} (hxy : SameUnless kind x y) :
    Template.SameUnless kind (resultOf x) (resultOf y) := by
  rcases hxy with rfl | ⟨e, he, hx⟩
  · exact .refl _
  · exact Or.inr ⟨e, he, by rw [Template.resultOf, hx]; rfl⟩

end Outcome.SameUnless

end Results

/-- Output statements that write the same text, unless the first one fails, render alike. -/
theorem sameUnless_renderOutput {kind : Error → Prop} {env env' : Environment} {pipeline : Pipeline} {p : Progress}
    (h : SameUnless kind (outputText env pipeline p.context) (outputText env' pipeline p.context)) :
    Outcome.SameUnless kind (renderOutput env pipeline p) (renderOutput env' pipeline p) := by
  rw [renderOutput_eq, renderOutput_eq]
  rcases h with h | ⟨e, he, h⟩
  · rw [h]
    exact .refl _
  · rw [h]
    exact Or.inr ⟨e, he, rfl⟩

/-! ## Trees with other headers -/

mutual

def Node.mapHeaders (change : LoopHeader → LoopHeader) : Node → Node
  | .text content => .text content
  | .output pipeline => .output pipeline
  | .loop header body alternative =>
    .loop (change header) (mapHeaders change body) (mapHeadersOfAlternative change alternative)
termination_by structural node => node

def mapHeadersOfAlternative (change : LoopHeader → LoopHeader) : Option (List Node) → Option (List Node)
  | none => none
  | some nodes => some (mapHeaders change nodes)
termination_by structural nodes => nodes

def mapHeaders (change : LoopHeader → LoopHeader) : List Node → List Node
  | [] => []
  | node :: rest => node.mapHeaders change :: mapHeaders change rest
termination_by structural nodes => nodes

end

theorem mapHeadersOfAlternative_eq (change : LoopHeader → LoopHeader) (nodes : Option (List Node)) :
    mapHeadersOfAlternative change nodes = nodes.map (mapHeaders change) := by
  cases nodes <;> rfl

mutual

theorem Node.mapHeaders_id : ∀ node : Node, node.mapHeaders id = node
  | .text _ => rfl
  | .output _ => rfl
  | .loop header body alternative => by
    rw [Node.mapHeaders, mapHeaders_id body, mapHeadersOfAlternative_id alternative, id]
termination_by structural node => node

theorem mapHeadersOfAlternative_id : ∀ nodes : Option (List Node), mapHeadersOfAlternative id nodes = nodes
  | none => rfl
  | some nodes => congrArg some (mapHeaders_id nodes)
termination_by structural nodes => nodes

theorem mapHeaders_id : ∀ nodes : List Node, mapHeaders id nodes = nodes
  | [] => rfl
  | node :: rest => by rw [mapHeaders, node.mapHeaders_id, mapHeaders_id rest]
termination_by structural nodes => nodes

end

/-! ## What trees write -/

mutual

/-- The pipelines of the output statements in a node. -/
def Node.pipelines : Node → List Pipeline
  | .text _ => []
  | .output pipeline => [pipeline]
  | .loop _ body alternative => pipelinesOf body ++ pipelinesOfAlternative alternative
termination_by structural node => node

def pipelinesOfAlternative : Option (List Node) → List Pipeline
  | none => []
  | some nodes => pipelinesOf nodes
termination_by structural nodes => nodes

def pipelinesOf : List Node → List Pipeline
  | [] => []
  | node :: rest => node.pipelines ++ pipelinesOf rest
termination_by structural nodes => nodes

end

/-! ## Whole renders -/

/-- What two environments have to agree on, where each of them has changed the headers of the loops and the output
statements write pipelines of a kind. -/
structure Lockstep (kind : Error → Prop) (writes : Pipeline → Prop) (env env' : Environment)
    (change change' : LoopHeader → LoopHeader) : Prop where
  output : ∀ pipeline, writes pipeline → ∀ p,
    Outcome.SameUnless kind (renderOutput env pipeline p) (renderOutput env' pipeline p)
  variableName : ∀ header, (change header).variableName = (change' header).variableName
  items : ∀ header context,
    SameUnless kind ((change header).items env.mode context) ((change' header).items env'.mode context)

section Loop

variable {kind : Error → Prop} (name : String) {body body' : Progress → Outcome}

theorem sameUnless_renderEach (hbody : ∀ p, Outcome.SameUnless kind (body p) (body' p)) (length index : Nat)
    (items : List Json) (p : Progress) :
    Outcome.SameUnless kind (renderEach name length body index items p)
      (renderEach name length body' index items p) := by
  induction items generalizing index p with
  | nil => exact .refl _
  | cons item rest ih => exact (hbody _).andThen fun q => ih (index + 1) q

theorem sameUnless_renderItems {alternative alternative' : Progress → Outcome}
    (hbody : ∀ p, Outcome.SameUnless kind (body p) (body' p))
    (halternative : ∀ p, Outcome.SameUnless kind (alternative p) (alternative' p)) (items : List Json)
    (p : Progress) :
    Outcome.SameUnless kind (renderItems name items body alternative p)
      (renderItems name items body' alternative' p) := by
  cases items with
  | nil => exact halternative p
  | cons item rest => exact (sameUnless_renderEach name hbody _ 0 _ _).closeScope

end Loop

section Tree

variable {kind : Error → Prop} {writes : Pipeline → Prop} {env env' : Environment}
  {change change' : LoopHeader → LoopHeader}

mutual

theorem Lockstep.renderNode (h : Lockstep kind writes env env' change change') :
    ∀ (node : Node), (∀ pipeline ∈ node.pipelines, writes pipeline) → ∀ (p : Progress),
      Outcome.SameUnless kind (renderNode env (node.mapHeaders change) p)
        (renderNode env' (node.mapHeaders change') p)
  | .text _, _, _ => .refl _
  | .output pipeline, hWrites, p => h.output pipeline (hWrites pipeline List.mem_cons_self) p
  | .loop header body alternative, hWrites, p => by
    rw [Node.pipelines, List.forall_mem_append] at hWrites
    rw [Node.mapHeaders, Node.mapHeaders, Template.renderNode, Template.renderNode, h.variableName]
    rcases h.items header p.context with hitems | ⟨e, he, hitems⟩
    · rw [← hitems]
      cases (change header).items env.mode p.context with
      | error e => exact .refl _
      | ok items =>
        exact sameUnless_renderItems _ (h.renderNodes body hWrites.1) (h.renderAlternative alternative hWrites.2)
          items p
    · rw [hitems]
      exact Or.inr ⟨e, he, rfl⟩
termination_by structural node => node

theorem Lockstep.renderAlternative (h : Lockstep kind writes env env' change change') :
    ∀ (nodes : Option (List Node)), (∀ pipeline ∈ pipelinesOfAlternative nodes, writes pipeline) → ∀ (p : Progress),
      Outcome.SameUnless kind (renderAlternative env (mapHeadersOfAlternative change nodes) p)
        (renderAlternative env' (mapHeadersOfAlternative change' nodes) p)
  | none, _, _ => .refl _
  | some nodes, hWrites, p => h.renderNodes nodes hWrites p
termination_by structural nodes => nodes

theorem Lockstep.renderNodes (h : Lockstep kind writes env env' change change') :
    ∀ (nodes : List Node), (∀ pipeline ∈ pipelinesOf nodes, writes pipeline) → ∀ (p : Progress),
      Outcome.SameUnless kind (renderNodes env (mapHeaders change nodes) p)
        (renderNodes env' (mapHeaders change' nodes) p)
  | [], _, _ => .refl _
  | node :: rest, hWrites, p => by
    rw [pipelinesOf, List.forall_mem_append] at hWrites
    exact (h.renderNode node hWrites.1 p).andThen (h.renderNodes rest hWrites.2)
termination_by structural nodes => nodes

end

end Tree

end TemplateQuery.Template
