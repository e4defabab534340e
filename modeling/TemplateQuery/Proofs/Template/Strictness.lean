import TemplateQuery.Proofs.Template.Failing
import TemplateQuery.Proofs.Template.Lockstep
import TemplateQuery.Proofs.Template.Reading

/-!
# Strict and lenient renders

The mode of an environment is looked at where a value is written, filtered or iterated over, and all it decides there is
whether an undefined value ends the render. So a strict render is the lenient one up to the first such value, and a
lenient render never ends for that reason.
-/
namespace TemplateQuery

/-! ## Changing the mode -/

namespace Template

def Environment.withMode (mode : UndefinedMode) (env : Environment) : Environment := { env with mode := mode }

end Template

def Template.withMode (mode : Template.UndefinedMode) (template : Template) : Template :=
  { template with environment := template.environment.withMode mode }

namespace Template

theorem ofText_withMode (mode : UndefinedMode) (env : Environment) (source : String) (globals : Dict Json) :
    Template.ofText (env.withMode mode) source globals =
      (Template.ofText env source globals).map (Template.withMode mode) := by
  have hNodes : nodesOfMarkup (env.withMode mode) = nodesOfMarkup env :=
    funext fun ms => nodesOfMarkup_congr (readsAlike_of_tags rfl ms)
  rw [ofText_eq_map, ofText_eq_map, hNodes]
  cases scan source >>= nodesOfMarkup env <;> rfl

/-! ## Both modes at once -/

/-- A use of an undefined value. -/
def Error.IsUndefined (e : Error) : Prop := ∃ hint, e = .undefined hint

section Modes

variable (env : Environment)

theorem check_strict (value : Value) :
    SameUnless Error.IsUndefined (UndefinedMode.strict.check value) (UndefinedMode.lenient.check value) := by
  cases value with
  | defined json => exact .refl _
  | undefined hint => exact Or.inr ⟨.undefined hint, ⟨hint, rfl⟩, rfl⟩

theorem FilterCall.run_strict (context : RenderContext) (call : FilterCall) (input : Value) :
    SameUnless Error.IsUndefined (call.run (env.withMode .strict) context input)
      (call.run (env.withMode .lenient) context input) := by
  rw [FilterCall.run, FilterCall.run, Environment.withMode, Environment.withMode]
  cases Dict.get? env.filters call.name with
  | none => exact .refl _
  | some filter =>
    by_cases hAccepts : filter.acceptsUndefined
    · simpa [hAccepts] using .refl _
    · simpa [hAccepts] using (check_strict input).bind fun _ => .refl _

theorem runCalls_strict (context : RenderContext) (calls : List FilterCall) (value : Value) :
    SameUnless Error.IsUndefined (runCalls (env.withMode .strict) context calls value)
      (runCalls (env.withMode .lenient) context calls value) := by
  induction calls generalizing value with
  | nil => exact .refl _
  | cons call rest ih => exact (call.run_strict env context value).bind ih

theorem outputText_strict (pipeline : Pipeline) (context : RenderContext) :
    SameUnless Error.IsUndefined (outputText (env.withMode .strict) pipeline context)
      (outputText (env.withMode .lenient) pipeline context) :=
  (runCalls_strict env context pipeline.calls _).bind fun value => (check_strict value).bind fun _ => .refl _

theorem LoopHeader.items_strict (header : LoopHeader) (context : RenderContext) :
    SameUnless Error.IsUndefined (header.items .strict context) (header.items .lenient context) :=
  SameUnless.bind (.refl (header.target context)) fun target => (check_strict target).bind fun _ => .refl _

/-- A strict render and a lenient one stay together until an undefined value is used. -/
theorem lockstep_strict :
    Lockstep Error.IsUndefined (fun _ => True) (env.withMode .strict) (env.withMode .lenient) id id where
  output pipeline _ p := sameUnless_renderOutput (outputText_strict env pipeline p.context)
  variableName _ := rfl
  items header context := header.items_strict context

theorem render_strict (template : Template) (data : Json) :
    SameUnless Error.IsUndefined ((template.withMode .strict).render data)
      ((template.withMode .lenient).render data) := by
  refine SameUnless.bind (.refl (template.context data)) fun context => ?_
  have h := (lockstep_strict template.environment).renderNodes template.nodes (fun _ _ => trivial) ⟨context, ""⟩
  rw [mapHeaders_id] at h
  exact h.resultOf

end Modes

/-- In strict and in lenient mode the same error comes up when a template is read, or it is read in both. Then a strict
render gives what the lenient one gives, text or error, or it ends at an undefined value; and a lenient render never
does. -/
theorem strict_render_eq_or_undefined (env : Environment) (source : String) (globals : Dict Json) :
    (∃ e, Template.ofText (env.withMode .strict) source globals = .error e ∧
      Template.ofText (env.withMode .lenient) source globals = .error e) ∨
    ∃ strict lenient, Template.ofText (env.withMode .strict) source globals = .ok strict ∧
      Template.ofText (env.withMode .lenient) source globals = .ok lenient ∧ ∀ data,
        (strict.render data = lenient.render data ∨ ∃ hint, strict.render data = .error (.undefined hint)) ∧
        ∀ hint, lenient.render data ≠ .error (.undefined hint) := by
  rw [ofText_withMode, ofText_withMode]
  cases Template.ofText env source globals with
  | error e => exact Or.inl ⟨e, rfl, rfl⟩
  | ok template =>
    refine Or.inr ⟨_, _, rfl, rfl, fun data => ⟨?_, ?_⟩⟩
    · rcases render_strict template data with h | ⟨e, ⟨hint, rfl⟩, h⟩
      · exact Or.inl h
      · exact Or.inr ⟨hint, h⟩
    · intro hint h
      have hRendering : Error.OfRendering .lenient (.undefined hint) := ofRendering_of_render h
      exact hRendering.lenient_ne_undefined hint rfl

end Template

end TemplateQuery
