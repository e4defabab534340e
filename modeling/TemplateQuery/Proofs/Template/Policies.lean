import TemplateQuery.Proofs.Dict
import TemplateQuery.Proofs.Steps
import TemplateQuery.Proofs.Template.Lockstep

/-!
# Failure policies

The policy of the query filters and query loops is looked at in one place only, where a query has failed. Templates
are read alike under every policy, and a render that raises nothing gives the same text under all of them.
-/
namespace TemplateQuery

/-! ## Changing the policy -/

def QuerySettings.withPolicy (policy : Policy) (settings : QuerySettings) : QuerySettings :=
  { settings with policy := policy }

namespace Template

def Filter.withPolicy (policy : Policy) : Filter → Filter
  | .find settings => .find (settings.withPolicy policy)
  | filter => filter

def BlockTag.withPolicy (policy : Policy) : BlockTag → BlockTag
  | .loop => .loop
  | .queryLoop settings => .queryLoop (settings.withPolicy policy)

/-- The environment with every query filter and every query loop under one policy. -/
def Environment.withPolicy (policy : Policy) (env : Environment) : Environment :=
  { env with
    filters := env.filters.mapValues (Filter.withPolicy policy)
    tags := env.tags.mapValues (BlockTag.withPolicy policy) }

def LoopQuery.withPolicy (policy : Policy) (q : LoopQuery) : LoopQuery := { q with policy := policy }

def LoopHeader.withPolicy (policy : Policy) (header : LoopHeader) : LoopHeader :=
  { header with query := header.query.map (LoopQuery.withPolicy policy) }

end Template

/-- The same template under one policy. -/
def Template.withPolicy (policy : Policy) (template : Template) : Template where
  environment := template.environment.withPolicy policy
  nodes := Template.mapHeaders (Template.LoopHeader.withPolicy policy) template.nodes
  globals := template.globals

namespace Template

/-- The environment that settings build differs from policy to policy by this change alone. -/
theorem Environment.withQueries_withPolicy (policy : Policy) (settings : QuerySettings) :
    (withQueries settings).withPolicy policy = withQueries (settings.withPolicy policy) := by
  rw [withQueries, withFilter, withTag, withPolicy]
  simp only [Dict.mapValues_put]
  rfl

@[simp] theorem Environment.mode_withPolicy (policy : Policy) (env : Environment) :
    (env.withPolicy policy).mode = env.mode := rfl

theorem Environment.get?_tags_withPolicy (policy : Policy) (env : Environment) (name : String) :
    Dict.get? (env.withPolicy policy).tags name = (Dict.get? env.tags name).map (BlockTag.withPolicy policy) :=
  Dict.get?_mapValues _ _ _

theorem Environment.get?_filters_withPolicy (policy : Policy) (env : Environment) (name : String) :
    Dict.get? (env.withPolicy policy).filters name = (Dict.get? env.filters name).map (Filter.withPolicy policy) :=
  Dict.get?_mapValues _ _ _

/-! ## Reading -/

theorem atLine_map {α β : Type} (line : Nat) (f : α → β) (x : Checked α) :
    atLine line (x.map f) = (atLine line x).map f := by
  cases x <;> rfl

def Block.withPolicy (policy : Policy) (block : Block) : Block :=
  (mapHeaders (LoopHeader.withPolicy policy) block.1, block.2)

def Branches.withPolicy (policy : Policy) (branches : Branches) : Branches :=
  (mapHeaders (LoopHeader.withPolicy policy) branches.1,
    branches.2.1.map (mapHeaders (LoopHeader.withPolicy policy)), branches.2.2)

section Reading

variable (policy : Policy)

theorem readLoopQuery_withPolicy (settings : QuerySettings) (ts : List Token) :
    readLoopQuery (settings.withPolicy policy) ts =
      (readLoopQuery settings ts).map fun r => (r.1.withPolicy policy, r.2) := by
  unfold readLoopQuery
  split
  · rename_i path rest
    rw [QuerySettings.withPolicy]
    cases Query.compile settings.functions path <;> rfl
  · rfl

theorem readOptionalQuery_withPolicy (tag : BlockTag) (ts : List Token) :
    readOptionalQuery (tag.withPolicy policy) ts =
      (readOptionalQuery tag ts).map fun r => (r.1.map (LoopQuery.withPolicy policy), r.2) := by
  cases tag with
  | loop => rfl
  | queryLoop settings =>
    cases ts with
    | nil => rfl
    | cons t ts =>
      cases t with
      | pipe =>
        simp only [BlockTag.withPolicy, readOptionalQuery, readLoopQuery_withPolicy, bind_map_eq, map_bind_eq]
        rfl
      | _ => rfl

theorem LoopHeader.ofText_withPolicy (tag : BlockTag) (header : String) :
    LoopHeader.ofText (tag.withPolicy policy) header =
      (LoopHeader.ofText tag header).map (LoopHeader.withPolicy policy) := by
  simp only [LoopHeader.ofText, LoopHeader.ofTokens, readOptionalQuery_withPolicy, bind_map_eq, map_bind_eq]
  rfl

theorem readBranches_withPolicy {block block' : String → List Markup → Except Error Block}
    (h : ∀ endTag ms, block' endTag ms = (block endTag ms).map (Block.withPolicy policy)) (name : String) (line : Nat)
    (ms : List Markup) :
    readBranches block' name line ms = (readBranches block name line ms).map (Branches.withPolicy policy) := by
  simp only [readBranches, h, bind_map_eq, map_bind_eq]
  congr 1
  funext ⟨body, stop, rest⟩
  cases stop with
  | none => rfl
  | some stop =>
    by_cases hElse : stop.name = "else"
    · simp only [Block.withPolicy, hElse, if_true, map_bind_eq]
      congr 1
      funext ⟨alternative, stop, rest⟩
      cases stop with
      | none => rfl
      | some stop => by_cases hAgain : stop.name = "else" <;> simp only [hAgain, if_true, if_false] <;> rfl
    · simp only [Block.withPolicy, hElse, if_false]
      rfl

/-- Every step of the reader looks at the tags of the environment, and never at their policies. -/
theorem readBlock_withPolicy (env : Environment) (fuel : Nat) (endTag : Option String) (ms : List Markup) :
    readBlock (env.withPolicy policy) fuel endTag ms =
      (readBlock env fuel endTag ms).map (Block.withPolicy policy) := by
  induction fuel generalizing endTag ms with
  | zero => rfl
  | succ fuel ih =>
    cases ms with
    | nil => rfl
    | cons m rest =>
      cases m with
      | text content =>
        simp only [readBlock, ih, bind_map_eq, map_bind_eq]
        rfl
      | output source line =>
        simp only [readBlock, ih, bind_map_eq, map_bind_eq]
        rfl
      | tag name header line =>
        rw [readBlock, readBlock]
        by_cases hStop : name = "else" ∨ some name = endTag
        · simp only [hStop, if_true]
          rfl
        · simp only [hStop, if_false, Environment.get?_tags_withPolicy]
          cases Dict.get? env.tags name with
          | none => rfl
          | some tag =>
            simp only [Option.map_some, readBranches_withPolicy policy fun e => ih (some e), ih, atLine_map,
              LoopHeader.ofText_withPolicy, bind_map_eq, map_bind_eq]
            simp only [Branches.withPolicy, ← mapHeadersOfAlternative_eq]
            rfl

theorem nodesOfMarkup_withPolicy (env : Environment) (ms : List Markup) :
    nodesOfMarkup (env.withPolicy policy) ms =
      (nodesOfMarkup env ms).map (mapHeaders (LoopHeader.withPolicy policy)) := by
  simp only [nodesOfMarkup, readBlock_withPolicy, bind_map_eq, map_bind_eq]
  congr 1
  funext ⟨nodes, stop, rest⟩
  cases stop <;> rfl

/-- What reading a template under a policy gives is what reading it gives, brought under the policy afterwards. -/
theorem ofText_withPolicy (env : Environment) (source : String) (globals : Dict Json) :
    Template.ofText (env.withPolicy policy) source globals =
      (Template.ofText env source globals).map (Template.withPolicy policy) := by
  simp only [Template.ofText, nodesOfMarkup_withPolicy, bind_map_eq, map_bind_eq]
  rfl

end Reading

/-! ## Rendering -/

/-- A failed query, as a filter or a loop reports it. -/
def Error.IsQueryFailure (e : Error) : Prop :=
  ∃ failure, e = .argument "find" (.query failure) ∨ e = .type (.query failure)

section Rendering

variable (policy : Policy)

/-- Raising is the only policy that lets a failure through; all policies keep what was found. -/
theorem resolve_raise (x : Except Failure (List Json)) :
    Policy.raise.resolve x = policy.resolve x ∨ ∃ failure, Policy.raise.resolve x = .error failure := by
  cases x with
  | ok values => exact Or.inl rfl
  | error failure => exact Or.inr ⟨failure, rfl⟩

theorem apply_withPolicy (settings : QuerySettings) (value : Value) (path : String) (extra : Json) :
    (settings.withPolicy .raise).apply value path extra = (settings.withPolicy policy).apply value path extra ∨
      ∃ failure, (settings.withPolicy .raise).apply value path extra = .error failure :=
  resolve_raise policy _

theorem applyCompiled_raise (query : Query.Compiled) (value : Value) (extra : Json) :
    applyCompiled .raise query value extra = applyCompiled policy query value extra ∨
      ∃ failure, applyCompiled .raise query value extra = .error failure :=
  resolve_raise policy _

theorem Filter.apply_withPolicy (filter : Filter) (input : Value) (args : List Value) (globals : Json) :
    SameUnless Error.IsQueryFailure ((filter.withPolicy .raise).apply input args globals)
      ((filter.withPolicy policy).apply input args globals) := by
  cases filter with
  | find settings =>
    refine SameUnless.bind (.refl (pathArgument args)) fun path => ?_
    rcases Template.apply_withPolicy policy settings input path globals with h | ⟨failure, h⟩
    · exact Or.inl (by rw [h])
    · exact Or.inr ⟨.argument "find" (.query failure), ⟨failure, .inl rfl⟩, by rw [h]; rfl⟩
  | _ => exact .refl _

theorem Filter.acceptsUndefined_withPolicy (filter : Filter) :
    (filter.withPolicy policy).acceptsUndefined = filter.acceptsUndefined := by
  cases filter <;> rfl

theorem runCalls_withPolicy (env : Environment) (context : RenderContext) (calls : List FilterCall) (value : Value) :
    SameUnless Error.IsQueryFailure (runCalls (env.withPolicy .raise) context calls value)
      (runCalls (env.withPolicy policy) context calls value) := by
  induction calls generalizing value with
  | nil => exact .refl _
  | cons call rest ih =>
    refine SameUnless.bind ?_ ih
    rw [FilterCall.run, FilterCall.run, Environment.get?_filters_withPolicy, Environment.get?_filters_withPolicy]
    cases Dict.get? env.filters call.name with
    | none => exact .refl _
    | some filter =>
      have hApply := filter.apply_withPolicy policy value (call.arguments.map (Expression.evaluate context))
        context.globals
      simp only [Option.map_some, Filter.acceptsUndefined_withPolicy]
      by_cases h : filter.acceptsUndefined
      · simpa [h] using hApply
      · simpa [h] using SameUnless.bind (.refl (env.mode.check value)) fun _ => hApply

theorem LoopHeader.items_withPolicy (header : LoopHeader) (mode : UndefinedMode) (context : RenderContext) :
    SameUnless Error.IsQueryFailure ((header.withPolicy .raise).items mode context)
      ((header.withPolicy policy).items mode context) := by
  refine SameUnless.bind ?_ fun target => .refl _
  obtain ⟨name, source, query, modifiers⟩ := header
  cases query with
  | none => exact .refl _
  | some q =>
    rcases applyCompiled_raise policy q.query (source.evaluate context) context.globals with h | ⟨failure, h⟩
    · exact Or.inl (by simp only [target, withPolicy, Option.map_some, LoopQuery.withPolicy, h])
    · refine Or.inr ⟨.type (.query failure), ⟨failure, .inr rfl⟩, ?_⟩
      simp only [target, withPolicy, Option.map_some, LoopQuery.withPolicy, h]

theorem renderOutput_withPolicy (env : Environment) (pipeline : Pipeline) (p : Progress) :
    Outcome.SameUnless Error.IsQueryFailure (renderOutput (env.withPolicy .raise) pipeline p)
      (renderOutput (env.withPolicy policy) pipeline p) := by
  refine sameUnless_renderOutput (SameUnless.bind ?_ fun value => .refl _)
  exact runCalls_withPolicy policy env p.context pipeline.calls (pipeline.source.evaluate p.context)

/-- A render under the raising policy and one under any other stay together until a query fails. -/
theorem lockstep_withPolicy (env : Environment) :
    Lockstep Error.IsQueryFailure (fun _ => True) (env.withPolicy .raise) (env.withPolicy policy)
      (LoopHeader.withPolicy .raise) (LoopHeader.withPolicy policy) where
  output pipeline _ := renderOutput_withPolicy policy env pipeline
  variableName _ := rfl
  items header context := header.items_withPolicy policy env.mode context

theorem render_withPolicy (template : Template) (data : Json) :
    SameUnless Error.IsQueryFailure ((template.withPolicy .raise).render data)
      ((template.withPolicy policy).render data) := by
  refine SameUnless.bind (.refl (template.context data)) fun context => ?_
  have hNodes := (lockstep_withPolicy policy template.environment).renderNodes template.nodes fun _ _ => trivial
  exact (hNodes ⟨context, ""⟩).resultOf

end Rendering

/-- Under the raising policy and under any other one, the same error comes up when a template is read, or it is read
under both. Then a render that raises gives what the other render gives, or the failure of a query; so its texts are the
texts of the other render. -/
theorem policies_agree_unless_a_query_fails (env : Environment) (source : String) (globals : Dict Json)
    (policy : Policy) :
    (∃ e, Template.ofText (env.withPolicy .raise) source globals = .error e ∧
      Template.ofText (env.withPolicy policy) source globals = .error e) ∨
    ∃ raising other, Template.ofText (env.withPolicy .raise) source globals = .ok raising ∧
      Template.ofText (env.withPolicy policy) source globals = .ok other ∧ ∀ data,
        (raising.render data = other.render data ∨
          ∃ failure, raising.render data = .error (.argument "find" (.query failure)) ∨
            raising.render data = .error (.type (.query failure))) ∧
        ∀ text, raising.render data = .ok text → other.render data = .ok text := by
  rw [ofText_withPolicy, ofText_withPolicy]
  cases Template.ofText env source globals with
  | error e => exact Or.inl ⟨e, rfl, rfl⟩
  | ok template =>
    refine Or.inr ⟨_, _, rfl, rfl, fun data => ?_⟩
    have h := render_withPolicy policy template data
    refine ⟨h.imp_right ?_, fun text => h.ok_right⟩
    rintro ⟨e, ⟨failure, rfl | rfl⟩, hfail⟩
    · exact ⟨failure, .inl hfail⟩
    · exact ⟨failure, .inr hfail⟩

end Template

end TemplateQuery
