import TemplateQuery.Proofs.Template.Output
import TemplateQuery.Template.Basic

/-!
# Where renders fail

A render comes to the nodes of a template one after the other, and to those in the body of a loop once for every item
until one of them fails. So each error of a render is the error of a node that the render came to, and what can go
wrong at a node by itself can be read off the node.
-/
namespace TemplateQuery.Template

/-! ## Nodes that a render comes to -/

/-- The iterations of a loop come to an item, and its iteration begins at a progress. -/
inductive Iterates (name : String) (length : Nat) (body : Progress → Outcome) :
    Nat → List Json → Progress → Progress → Prop where
  | now (index : Nat) (item : Json) (rest : List Json) (p : Progress) :
    Iterates name length body index (item :: rest) p (p.bindItem name item index length)
  | later {index : Nat} {item : Json} {rest : List Json} {p q start : Progress}
    (hBody : body (p.bindItem name item index length) = (q, .ok ()))
    (hRest : Iterates name length body (index + 1) rest q start) :
    Iterates name length body index (item :: rest) p start

/-- A render of nodes that starts at a progress comes to a node, at any depth, and is at another progress then. -/
inductive Reaches (env : Environment) : List Node → Progress → Node → Progress → Prop where
  | here (node : Node) (rest : List Node) (p : Progress) : Reaches env (node :: rest) p node p
  | next {node found : Node} {rest : List Node} {p q r : Progress} (hNode : renderNode env node p = (q, .ok ()))
    (hRest : Reaches env rest q found r) : Reaches env (node :: rest) p found r
  | body {header : LoopHeader} {inner rest : List Node} {alternative : Option (List Node)} {items : List Json}
    {p start r : Progress} {found : Node} (hItems : header.items env.mode p.context = .ok items)
    (hStart : Iterates header.variableName items.length (renderNodes env inner) 0 items p.openScope start)
    (hInner : Reaches env inner start found r) : Reaches env (.loop header inner alternative :: rest) p found r
  | alternative {header : LoopHeader} {inner nodes rest : List Node} {p r : Progress} {found : Node}
    (hItems : header.items env.mode p.context = .ok []) (hInner : Reaches env nodes p found r) :
    Reaches env (.loop header inner (some nodes) :: rest) p found r

/-- A node goes wrong by itself, and not in a node inside it. -/
def Node.FailsWith (env : Environment) (p : Progress) (e : Error) : Node → Prop
  | .text _ => False
  | .output pipeline => outputText env pipeline p.context = .error e
  | .loop header _ _ => header.items env.mode p.context = .error e

section Loop

variable {name : String} {body : Progress → Outcome} {e : Error}

theorem Outcome.andThen_eq_error {x : Outcome} {next : Progress → Outcome} (h : (x.andThen next).2 = .error e) :
    x.2 = .error e ∨ ∃ q, x = (q, .ok ()) ∧ (next q).2 = .error e := by
  rcases x with ⟨q, _ | ⟨⟨⟩⟩⟩
  · exact Or.inl h
  · exact Or.inr ⟨q, rfl, h⟩

theorem exists_iterates_of_error {length index : Nat} {items : List Json} {p : Progress}
    (h : (renderEach name length body index items p).2 = .error e) :
    ∃ start, Iterates name length body index items p start ∧ (body start).2 = .error e := by
  induction items generalizing index p with
  | nil => cases h
  | cons item rest ih =>
    rcases Outcome.andThen_eq_error h with hNow | ⟨q, hNow, hLater⟩
    · exact ⟨_, .now index item rest p, hNow⟩
    · obtain ⟨start, hStart, hError⟩ := ih hLater
      exact ⟨start, .later hNow hStart, hError⟩

end Loop

section Tree

variable {env : Environment} {e : Error}

mutual

theorem exists_reaches_of_node_error : ∀ (node : Node) (rest : List Node) (p : Progress),
    (renderNode env node p).2 = .error e → ∃ found q, Reaches env (node :: rest) p found q ∧ found.FailsWith env q e
  | .text _, _, _, h => by cases h
  | .output pipeline, rest, p, h => ⟨.output pipeline, p, .here _ rest p, outputText_of_renderOutput_error h⟩
  | .loop header body alternative, rest, p, h => by
    rw [renderNode] at h
    cases hItems : header.items env.mode p.context with
    | error e' =>
      rw [hItems] at h
      cases h
      exact ⟨_, p, .here _ rest p, hItems⟩
    | ok items =>
      rw [hItems] at h
      cases items with
      | nil =>
        cases alternative with
        | none => cases h
        | some nodes =>
          obtain ⟨found, q, hFound, hError⟩ := exists_reaches_of_error nodes p h
          exact ⟨found, q, .alternative hItems hFound, hError⟩
      | cons item more =>
        obtain ⟨start, hStart, hBody⟩ := exists_iterates_of_error h
        obtain ⟨found, q, hFound, hError⟩ := exists_reaches_of_error body start hBody
        exact ⟨found, q, .body hItems hStart hFound, hError⟩
termination_by structural node => node

/-- An error of a render is the error of a node that the render came to. -/
theorem exists_reaches_of_error : ∀ (nodes : List Node) (p : Progress),
    (renderNodes env nodes p).2 = .error e → ∃ found q, Reaches env nodes p found q ∧ found.FailsWith env q e
  | [], _, h => by cases h
  | node :: rest, p, h => by
    rcases Outcome.andThen_eq_error h with hNode | ⟨q, hNode, hRest⟩
    · exact exists_reaches_of_node_error node rest p hNode
    · obtain ⟨found, r, hFound, hError⟩ := exists_reaches_of_error rest q hRest
      exact ⟨found, r, .next hNode hFound, hError⟩
termination_by structural nodes => nodes

end

end Tree

/-! ## What can go wrong -/

section Errors

variable {env : Environment} {mode : UndefinedMode} {context : RenderContext} {e : Error}

theorem LoopHeader.exists_query_of_target_error {header : LoopHeader} (h : header.target context = .error e) :
    ∃ failure, e = .type (.query failure) := by
  rw [target] at h
  cases hQuery : header.query with
  | none =>
    rw [hQuery] at h
    cases h
  | some q =>
    simp only [hQuery] at h
    split at h <;> cases h
    exact ⟨_, rfl⟩

theorem exists_loopBound_of_boundOf {name : String} {value : Value} (h : boundOf name value = .error e) :
    ∃ found, e = .type (.loopBound name found) := by
  unfold boundOf at h
  split at h <;> cases h
  exact ⟨_, rfl⟩

theorem exists_loopBound_of_error {name : String} {bound : Option Expression}
    (h : evaluateBound context name bound = .error e) : ∃ found, e = .type (.loopBound name found) := by
  cases bound with
  | none => cases h
  | some expression => exact exists_loopBound_of_boundOf h

theorem Modifiers.exists_loopBound_of_apply_error {m : Modifiers} {items : List Json}
    (h : m.apply context items = .error e) : ∃ name found, e = .type (.loopBound name found) := by
  rcases bind_eq_error.1 h with hOffset | ⟨offset, -, hRest⟩
  · exact ⟨"offset", exists_loopBound_of_error hOffset⟩
  · rcases bind_eq_error.1 hRest with hLimit | ⟨limit, -, hItems⟩
    · exact ⟨"limit", exists_loopBound_of_error hLimit⟩
    · cases hItems

theorem LoopHeader.ofRendering_of_items {header : LoopHeader} (h : header.items mode context = .error e) :
    e.OfRendering mode := by
  rcases bind_eq_error.1 h with hTarget | ⟨target, -, hItems⟩
  · obtain ⟨failure, rfl⟩ := exists_query_of_target_error hTarget
    exact .type _
  · rcases bind_eq_error.1 hItems with hCheck | ⟨⟨⟩, -, hApply⟩
    · exact UndefinedMode.ofRendering_of_check hCheck
    · obtain ⟨name, found, rfl⟩ := Modifiers.exists_loopBound_of_apply_error hApply
      exact .type _

theorem Node.FailsWith.ofRendering {node : Node} {p : Progress} (h : node.FailsWith env p e) :
    e.OfRendering env.mode := by
  cases node with
  | text content => exact h.elim
  | output pipeline => exact ofRendering_of_outputText h
  | loop header body alternative => exact LoopHeader.ofRendering_of_items h

end Errors

/-- A render fails over its data, or at a node that it comes to. -/
theorem exists_failing_of_render {template : Template} {data : Json} {e : Error} (h : template.render data = .error e) :
    (∃ found, e = .type (.renderData found)) ∨
      ∃ context found q, Reaches template.environment template.nodes ⟨context, ""⟩ found q ∧
        found.FailsWith template.environment q e := by
  rcases bind_eq_error.1 h with hContext | ⟨context, -, hNodes⟩
  · unfold Template.context at hContext
    split at hContext <;> cases hContext
    exact .inl ⟨_, rfl⟩
  · rw [resultOf] at hNodes
    cases hOutcome : (renderNodes template.environment template.nodes ⟨context, ""⟩).2 with
    | ok _ =>
      rw [hOutcome] at hNodes
      cases hNodes
    | error e' =>
      rw [hOutcome] at hNodes
      cases hNodes
      obtain ⟨found, q, hReaches, hFails⟩ := exists_reaches_of_error _ _ hOutcome
      exact .inr ⟨context, found, q, hReaches, hFails⟩

/-- A template that has been read fails with the errors of rendering only. -/
theorem ofRendering_of_render {template : Template} {data : Json} {e : Error} (h : template.render data = .error e) :
    e.OfRendering template.environment.mode := by
  rcases exists_failing_of_render h with ⟨found, rfl⟩ | ⟨context, found, q, -, hFails⟩
  · exact .type _
  · exact hFails.ofRendering

end TemplateQuery.Template
