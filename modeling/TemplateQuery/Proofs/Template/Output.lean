import TemplateQuery.Proofs.Steps
import TemplateQuery.Template.Render

/-!
# What output statements write

An output statement writes the text of a value after all of its filters, or it ends the render with an error of one of
the filters or of the value itself.
-/
namespace TemplateQuery.Template

/-- What an output statement writes in a context. -/
def outputText (env : Environment) (pipeline : Pipeline) (context : RenderContext) : Except Error String := do
  let value ← pipeline.evaluate env context
  env.mode.output value

theorem renderOutput_eq (env : Environment) (pipeline : Pipeline) (p : Progress) :
    renderOutput env pipeline p =
      match outputText env pipeline p.context with
      | .error e => p.fail e
      | .ok s => (p.write s).succeed := by
  rw [renderOutput, outputText]
  cases pipeline.evaluate env p.context with
  | error e => rfl
  | ok value => rfl

theorem outputText_of_renderOutput_error {env : Environment} {pipeline : Pipeline} {p : Progress} {e : Error}
    (h : (renderOutput env pipeline p).2 = .error e) : outputText env pipeline p.context = .error e := by
  rw [renderOutput_eq] at h
  cases hText : outputText env pipeline p.context with
  | error e' =>
    simp only [hText] at h
    cases h
    rfl
  | ok s =>
    simp only [hText] at h
    cases h

/-! ## What can go wrong -/

/-- The errors of rendering. An undefined value is one in strict mode only, and malformed templates are none. -/
inductive Error.OfRendering (mode : UndefinedMode) : Error → Prop where
  | argument (filter : String) (problem : ArgumentProblem) : OfRendering mode (.argument filter problem)
  | type (problem : TypeProblem) : OfRendering mode (.type problem)
  | undefined (hint : String) (hStrict : mode = .strict) : OfRendering mode (.undefined hint)
  | unknownFilter (name : String) : OfRendering mode (.unknownFilter name)

theorem Error.OfRendering.lenient_ne_undefined {e : Error} (h : e.OfRendering .lenient) (hint : String) :
    e ≠ .undefined hint := by
  rintro rfl
  cases h with
  | undefined hint hStrict => cases hStrict

section Errors

variable {env : Environment} {mode : UndefinedMode} {context : RenderContext} {value : Value} {e : Error}

theorem UndefinedMode.ofRendering_of_check (h : mode.check value = .error e) : e.OfRendering mode := by
  cases mode with
  | lenient => cases h
  | strict =>
    cases value with
    | defined json => cases h
    | undefined hint =>
      cases h
      exact .undefined hint rfl

theorem Filter.exists_argument_of_error {filter : Filter} {args : List Value} {globals : Json}
    (h : filter.apply value args globals = .error e) : ∃ name problem, e = .argument name problem := by
  cases filter with
  | join =>
    rcases bind_eq_error.1 h with hSeparator | ⟨s, -, hJoined⟩
    · unfold separator at hSeparator
      split at hSeparator <;> cases hSeparator
      exact ⟨_, _, rfl⟩
    · cases hJoined
  | find settings =>
    rcases bind_eq_error.1 h with hPath | ⟨path, -, hApply⟩
    · unfold pathArgument at hPath
      split at hPath <;> cases hPath
      · exact ⟨_, _, rfl⟩
      · exact ⟨_, _, rfl⟩
    · split at hApply <;> cases hApply
      exact ⟨_, _, rfl⟩
  | _ => cases h

theorem FilterCall.ofRendering_of_run {call : FilterCall} (h : call.run env context value = .error e) :
    e.OfRendering env.mode := by
  rw [run] at h
  cases hFilter : Dict.get? env.filters call.name with
  | none =>
    rw [hFilter] at h
    cases h
    exact .unknownFilter call.name
  | some filter =>
    rw [hFilter] at h
    have hApply : ∀ {e}, filter.apply value (call.arguments.map (Expression.evaluate context)) context.globals =
        .error e → e.OfRendering env.mode := by
      intro e hError
      obtain ⟨name, problem, rfl⟩ := Filter.exists_argument_of_error hError
      exact .argument name problem
    by_cases hAccepts : filter.acceptsUndefined
    · simp only [hAccepts, Bool.not_true, Bool.false_eq_true, if_false] at h
      exact hApply h
    · simp only [hAccepts, Bool.not_false, if_true] at h
      rcases bind_eq_error.1 h with hCheck | ⟨⟨⟩, -, hError⟩
      · exact UndefinedMode.ofRendering_of_check hCheck
      · exact hApply hError

theorem ofRendering_of_runCalls {calls : List FilterCall} (h : runCalls env context calls value = .error e) :
    e.OfRendering env.mode := by
  induction calls generalizing value with
  | nil => cases h
  | cons call rest ih =>
    rcases bind_eq_error.1 h with hCall | ⟨next, -, hRest⟩
    · exact FilterCall.ofRendering_of_run hCall
    · exact ih hRest

theorem ofRendering_of_outputText {pipeline : Pipeline} (h : outputText env pipeline context = .error e) :
    e.OfRendering env.mode := by
  rcases bind_eq_error.1 h with hValue | ⟨value, -, hOutput⟩
  · exact ofRendering_of_runCalls hValue
  · rcases bind_eq_error.1 hOutput with hCheck | ⟨⟨⟩, -, hText⟩
    · exact UndefinedMode.ofRendering_of_check hCheck
    · cases hText

end Errors

end TemplateQuery.Template
