import TemplateQuery.Proofs.Template.Failing

/-!
# What renders leave unchanged

A render gives the context back as it found it and only adds to the output, whether it succeeds or fails. Inside a loop
one more scope is open, and nothing below that scope is touched. So what a loop binds is gone after the loop, an inner
loop leaves the names of an outer one alone, and the globals are the same at every depth.
-/
namespace TemplateQuery.Template

/-- The step gives its context back and adds to the output. What it adds and how it ends depends on the context alone,
and not on what was written before. -/
def Frames (step : Progress → Outcome) : Prop :=
  ∀ context, ∃ added result, ∀ before, step ⟨context, before⟩ = (⟨context, before ++ added⟩, result)

/-- The same of a step that may also change the innermost scope. -/
def FramesOutside (step : Progress → Outcome) : Prop :=
  ∀ globals scope outer, ∃ inner added result, ∀ before,
    step ⟨⟨globals, scope :: outer⟩, before⟩ = (⟨⟨globals, inner :: outer⟩, before ++ added⟩, result)

section Steps

variable {step next : Progress → Outcome}

theorem Frames.context_eq (h : Frames step) (p : Progress) : (step p).1.context = p.context := by
  obtain ⟨added, result, hStep⟩ := h p.context
  rw [hStep]

theorem Frames.output_eq (h : Frames step) (p : Progress) : ∃ added, (step p).1.output = p.output ++ added := by
  obtain ⟨added, result, hStep⟩ := h p.context
  exact ⟨added, by rw [hStep]⟩

theorem frames_succeed : Frames Progress.succeed := by
  intro context
  exact ⟨"", .ok (), fun before => by simp [Progress.succeed]⟩

theorem Frames.andThen (hStep : Frames step) (hNext : Frames next) : Frames fun p => (step p).andThen next := by
  intro context
  obtain ⟨added, result, hStep⟩ := hStep context
  obtain ⟨more, result', hNext⟩ := hNext context
  cases result with
  | error e => exact ⟨added, .error e, fun before => by simp only [hStep, Outcome.andThen]⟩
  | ok _ =>
    exact ⟨added ++ more, result', fun before => by simp only [hStep, Outcome.andThen, hNext, String.append_assoc]⟩

theorem FramesOutside.closeScope (h : FramesOutside step) : Frames fun p => (step p.openScope).closeScope := by
  intro context
  obtain ⟨inner, added, result, hStep⟩ := h context.globals [] context.scopes
  refine ⟨added, result, fun before => ?_⟩
  change (step ⟨⟨context.globals, [] :: context.scopes⟩, before⟩).closeScope = _
  rw [hStep]
  rfl

end Steps

section Loop

variable {name : String} {body alternative : Progress → Outcome}

/-- The iterations share one scope, and the body of each of them leaves it as the iteration has set it. -/
theorem framesOutside_renderEach (hBody : Frames body) (length index : Nat) (items : List Json) :
    FramesOutside (renderEach name length body index items) := by
  induction items generalizing index with
  | nil =>
    intro globals scope outer
    exact ⟨scope, "", .ok (), fun before => by simp [renderEach, Progress.succeed]⟩
  | cons item rest ih =>
    intro globals scope outer
    let bound := (scope.put name item).put "forloop" (loopState index length)
    obtain ⟨added, result, hNow⟩ := hBody ⟨globals, bound :: outer⟩
    obtain ⟨inner, more, result', hLater⟩ := ih (index + 1) globals bound outer
    have hEach : ∀ before, renderEach name length body index (item :: rest) ⟨⟨globals, scope :: outer⟩, before⟩ =
        (body ⟨⟨globals, bound :: outer⟩, before⟩).andThen (renderEach name length body (index + 1) rest) :=
      fun _ => rfl
    cases result with
    | error e => exact ⟨bound, added, .error e, fun before => by simp only [hEach, hNow, Outcome.andThen]⟩
    | ok _ =>
      refine ⟨inner, added ++ more, result', fun before => ?_⟩
      simp only [hEach, hNow, Outcome.andThen, hLater, String.append_assoc]

theorem frames_renderItems (hBody : Frames body) (hAlternative : Frames alternative) (items : List Json) :
    Frames (renderItems name items body alternative) := by
  cases items with
  | nil => exact hAlternative
  | cons item rest => exact (framesOutside_renderEach hBody _ 0 (item :: rest)).closeScope

end Loop

section Tree

variable (env : Environment)

theorem frames_renderOutput (pipeline : Pipeline) : Frames (renderOutput env pipeline) := by
  intro context
  cases hText : outputText env pipeline context with
  | error e =>
    refine ⟨"", .error e, fun before => ?_⟩
    rw [renderOutput_eq, hText]
    simp [Progress.fail]
  | ok s =>
    refine ⟨s, .ok (), fun before => ?_⟩
    rw [renderOutput_eq, hText]
    rfl

mutual

theorem frames_renderNode : ∀ node, Frames (renderNode env node)
  | .text content => fun _ => ⟨content, .ok (), fun _ => rfl⟩
  | .output pipeline => frames_renderOutput env pipeline
  | .loop header body alternative => by
    intro context
    cases hItems : header.items env.mode context with
    | error e =>
      refine ⟨"", .error e, fun before => ?_⟩
      rw [renderNode, hItems]
      simp [Progress.fail]
    | ok items =>
      have hLoop : Frames (renderItems header.variableName items (renderNodes env body)
          (renderAlternative env alternative)) :=
        frames_renderItems (frames_renderNodes body) (frames_renderAlternative alternative) items
      obtain ⟨added, result, hLoop⟩ := hLoop context
      refine ⟨added, result, fun before => ?_⟩
      rw [renderNode, hItems, ← hLoop]
termination_by structural node => node

theorem frames_renderAlternative : ∀ nodes, Frames (renderAlternative env nodes)
  | none => frames_succeed
  | some nodes => frames_renderNodes nodes
termination_by structural nodes => nodes

theorem frames_renderNodes : ∀ nodes, Frames (renderNodes env nodes)
  | [] => frames_succeed
  | node :: rest => (frames_renderNode node).andThen (frames_renderNodes rest)
termination_by structural nodes => nodes

end

end Tree

/-! ## At every depth -/

/-- A moment inside a render that started at a progress: the globals are the same, the scopes of the start are open
below those of the loops around, and the output has only grown. -/
structure Inside (p q : Progress) : Prop where
  globals : q.context.globals = p.context.globals
  scopes : p.context.scopes <:+ q.context.scopes
  output : ∃ added, q.output = p.output ++ added

theorem Inside.refl (p : Progress) : Inside p p := ⟨rfl, List.suffix_refl _, "", by simp⟩

theorem Inside.trans {p q r : Progress} (hpq : Inside p q) (hqr : Inside q r) : Inside p r := by
  obtain ⟨added, hAdded⟩ := hpq.output
  obtain ⟨more, hMore⟩ := hqr.output
  refine ⟨hqr.globals.trans hpq.globals, hpq.scopes.trans hqr.scopes, added ++ more, ?_⟩
  rw [hMore, hAdded, String.append_assoc]

theorem Frames.inside {step : Progress → Outcome} (h : Frames step) {p q : Progress} {result : Except Error Unit}
    (hStep : step p = (q, result)) : q.context = p.context ∧ Inside p q := by
  have hContext := h.context_eq p
  have hOutput := h.output_eq p
  rw [hStep] at hContext hOutput
  exact ⟨hContext, congrArg RenderContext.globals hContext, hContext ▸ List.suffix_refl _, hOutput⟩

/-- Between the start of a loop and the start of an iteration only the innermost scope changes. -/
theorem Iterates.frames {name : String} {length index : Nat} {body : Progress → Outcome} {items : List Json}
    {p start : Progress} (h : Iterates name length body index items p start) (hBody : Frames body)
    {scope : Dict Json} {outer : List (Dict Json)} (hScopes : p.context.scopes = scope :: outer) :
    (∃ inner, start.context = ⟨p.context.globals, inner :: outer⟩) ∧ ∃ added, start.output = p.output ++ added := by
  have hBind : ∀ {p : Progress} {scope} item index, p.context.scopes = scope :: outer →
      ∃ inner, (p.bindItem name item index length).context = ⟨p.context.globals, inner :: outer⟩ := by
    intro p scope item index hScopes
    obtain ⟨⟨globals, scopes⟩, before⟩ := p
    cases hScopes
    exact ⟨_, rfl⟩
  induction h generalizing scope with
  | now index item rest p => exact ⟨hBind item index hScopes, "", by simp [Progress.bindItem]⟩
  | @later index item rest p q start hNow _ ih =>
    obtain ⟨inner, hBound⟩ := hBind item index hScopes
    obtain ⟨hContext, hInside⟩ := hBody.inside hNow
    rw [hBound] at hContext
    obtain ⟨⟨last, hStart⟩, added, hAdded⟩ := ih (by rw [hContext])
    obtain ⟨more, hMore⟩ := hInside.output
    refine ⟨⟨last, by rw [hStart, hContext]⟩, more ++ added, ?_⟩
    rw [hAdded, hMore, String.append_assoc]
    rfl

theorem Iterates.inside {name : String} {length : Nat} {body : Progress → Outcome} {items : List Json}
    {p start : Progress} (h : Iterates name length body 0 items p.openScope start) (hBody : Frames body) :
    Inside p start := by
  obtain ⟨⟨inner, hContext⟩, hOutput⟩ := h.frames hBody rfl
  exact ⟨by rw [hContext]; rfl, by rw [hContext]; exact List.suffix_cons _ _, hOutput⟩

theorem Reaches.inside {env : Environment} {nodes : List Node} {p q : Progress} {found : Node}
    (h : Reaches env nodes p found q) : Inside p q := by
  induction h with
  | here node rest p => exact .refl p
  | next hNode _ ih => exact ((frames_renderNode env _).inside hNode).2.trans ih
  | body _ hStart _ ih => exact (hStart.inside (frames_renderNodes env _)).trans ih
  | alternative _ _ ih => exact ih

/-- In the context, the filters of the environment and the queries of loop headers are handed the value as `_`. -/
structure HandsToQueries (env : Environment) (context : RenderContext) (extra : Json) : Prop where
  filter : ∀ (call : FilterCall) (filter : Filter) (input : Value), Dict.get? env.filters call.name = some filter →
    call.run env context input = do
      if !filter.acceptsUndefined then env.mode.check input
      filter.apply input (call.arguments.map (Expression.evaluate context)) extra
  loop : ∀ (header : LoopHeader) (q : LoopQuery), header.query = some q →
    header.target context =
      match applyCompiled q.policy q.query (header.source.evaluate context) extra with
      | .ok applied => .ok applied.toValue
      | .error failure => .error (.type (.query failure))

theorem handsToQueries_globals (env : Environment) (context : RenderContext) :
    HandsToQueries env context context.globals where
  filter call filter input hFilter := by rw [FilterCall.run, hFilter]
  loop header q hQuery := by
    cases header
    cases hQuery
    rfl

/-- A render gives back the scopes and the globals as it found them and only adds to the output, whether it succeeds or
fails, and so does every node that it comes to, at any depth: what the loops inside that node bind is gone after it.
There the scopes of the start are still open below those of the loops around the node, and what a query sees as `_` is
the globals of the start. -/
theorem renderNodes_keeps_context (env : Environment) (nodes : List Node) (p : Progress) :
    (renderNodes env nodes p).1.context = p.context ∧
      (∃ added, (renderNodes env nodes p).1.output = p.output ++ added) ∧
      ∀ found q, Reaches env nodes p found q →
        (renderNode env found q).1.context = q.context ∧
        (∃ added, (renderNode env found q).1.output = q.output ++ added) ∧
        Inside p q ∧ HandsToQueries env q.context p.context.globals := by
  refine ⟨(frames_renderNodes env nodes).context_eq p, (frames_renderNodes env nodes).output_eq p, ?_⟩
  intro found q hFound
  refine ⟨(frames_renderNode env found).context_eq q, (frames_renderNode env found).output_eq q, hFound.inside, ?_⟩
  rw [← hFound.inside.globals]
  exact handsToQueries_globals env q.context

end TemplateQuery.Template
