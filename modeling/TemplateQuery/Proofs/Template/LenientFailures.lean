import TemplateQuery.Pattern.Reader
import TemplateQuery.Proofs.Template.Blocks
import TemplateQuery.Proofs.Template.Policies
import TemplateQuery.Proofs.Template.Strictness

/-!
# Failed queries in lenient mode

Where a query fails, one policy gives an undefined value and another one an empty array. No built-in filter, no output
statement and no loop tells these two apart in lenient mode. Only a second query in the same pipeline would: it fails on
the one and finds nothing in the other.
-/
namespace TemplateQuery.Template

/-! ## Alike values -/

/-- The same value, or an undefined one in the first run and an empty array in the second. -/
inductive Alike : Value → Value → Prop where
  | refl (value : Value) : Alike value value
  | failed (hint : String) : Alike (.undefined hint) (.defined (.array []))

/-- The same error, or alike values. -/
inductive AlikeResults : Except Error Value → Except Error Value → Prop where
  | error (e : Error) : AlikeResults (.error e) (.error e)
  | ok {value value' : Value} (h : Alike value value') : AlikeResults (.ok value) (.ok value')

theorem AlikeResults.refl (x : Except Error Value) : AlikeResults x x := by
  cases x with
  | error e => exact .error e
  | ok value => exact .ok (.refl value)

theorem AlikeResults.bind_eq {α : Type} {x y : Except Error Value} {f g : Value → Except Error α}
    (h : AlikeResults x y) (hfg : ∀ value value', Alike value value' → f value = g value') : x >>= f = y >>= g := by
  cases h with
  | error e => rfl
  | ok h => exact hfg _ _ h

theorem AlikeResults.bind {x y : Except Error Value} {f g : Value → Except Error Value} (h : AlikeResults x y)
    (hfg : ∀ value value', Alike value value' → AlikeResults (f value) (g value')) :
    AlikeResults (x >>= f) (y >>= g) := by
  cases h with
  | error e => exact .error e
  | ok h => exact hfg _ _ h

theorem Alike.text_eq {value value' : Value} (h : Alike value value') : value.text = value'.text := by
  cases h <;> rfl

theorem Alike.itemsOf_eq {value value' : Value} (h : Alike value value') : itemsOf value = itemsOf value' := by
  cases h <;> rfl

/-! ## Filters under the two policies -/

def Filter.isQuery : Filter → Bool
  | .find _ => true
  | _ => false

theorem Filter.withPolicy_eq {filter : Filter} (h : filter.isQuery = false) (policy : Policy) :
    filter.withPolicy policy = filter := by
  cases filter with
  | find settings => cases h
  | _ => rfl

/-- No filter but a query tells alike values apart. -/
theorem Filter.apply_alike {filter : Filter} {value value' : Value} (hFilter : filter.isQuery = false)
    (h : Alike value value') (args : List Value) (globals : Json) :
    filter.apply value args globals = filter.apply value' args globals := by
  cases h with
  | refl => rfl
  | failed hint =>
    cases filter with
    | find settings => cases hFilter
    | _ => rfl

/-- Neither policy lets a failure through, and what they give for it is alike. -/
theorem alikeResults_resolve (x : Except Failure (List Json)) (raised : Failure → Error) :
    AlikeResults
      (match Policy.undefined.resolve x with
      | .ok applied => .ok applied.toValue
      | .error failure => .error (raised failure))
      (match Policy.empty.resolve x with
      | .ok applied => .ok applied.toValue
      | .error failure => .error (raised failure)) := by
  cases x with
  | error failure => exact .ok (.failed failure.message)
  | ok values => exact .refl _

/-- One filter gives alike results for the same value in both runs. -/
theorem Filter.alikeResults_apply (filter : Filter) (input : Value) (args : List Value) (globals : Json) :
    AlikeResults ((filter.withPolicy .undefined).apply input args globals)
      ((filter.withPolicy .empty).apply input args globals) := by
  cases filter with
  | find settings =>
    simp only [Filter.withPolicy, Filter.apply, findIn]
    cases pathArgument args with
    | error e => exact .error e
    | ok path => exact alikeResults_resolve _ _
  | _ => exact .refl _

/-! ## Pipelines -/

/-- The call is one of a query filter. -/
def FilterCall.queries (env : Environment) (call : FilterCall) : Bool :=
  (Dict.get? env.filters call.name).any Filter.isQuery

def Pipeline.QueriesAtMostOnce (env : Environment) (pipeline : Pipeline) : Prop :=
  pipeline.calls.countP (FilterCall.queries env) ≤ 1

section Lenient

variable {env : Environment} (hMode : env.mode = .lenient) (context : RenderContext)

include hMode

theorem FilterCall.run_lenient (policy : Policy) (call : FilterCall) (input : Value) :
    call.run (env.withPolicy policy) context input =
      match Dict.get? env.filters call.name with
      | none => .error (.unknownFilter call.name)
      | some filter =>
        (filter.withPolicy policy).apply input (call.arguments.map (Expression.evaluate context)) context.globals := by
  have hCheck : env.mode.check input = .ok () := by
    rw [hMode]
    rfl
  rw [FilterCall.run, Environment.get?_filters_withPolicy, Environment.mode_withPolicy, hCheck]
  cases Dict.get? env.filters call.name with
  | none => rfl
  | some filter =>
    simp only [Option.map_some]
    split <;> rfl

theorem FilterCall.run_alike {call : FilterCall} (hCall : call.queries env = false) {value value' : Value}
    (h : Alike value value') :
    call.run (env.withPolicy .undefined) context value = call.run (env.withPolicy .empty) context value' := by
  rw [run_lenient hMode, run_lenient hMode]
  cases hFilter : Dict.get? env.filters call.name with
  | none => rfl
  | some filter =>
    have hQuery : filter.isQuery = false := by rwa [queries, hFilter] at hCall
    simp only [Filter.withPolicy_eq hQuery, Filter.apply_alike hQuery h]

theorem FilterCall.alikeResults_run (call : FilterCall) (input : Value) :
    AlikeResults (call.run (env.withPolicy .undefined) context input)
      (call.run (env.withPolicy .empty) context input) := by
  rw [run_lenient hMode, run_lenient hMode]
  cases Dict.get? env.filters call.name with
  | none => exact .error _
  | some filter => exact filter.alikeResults_apply _ _ _

/-- After the query of a pipeline the two runs may have different values, but no more queries. -/
theorem alikeResults_runCalls_of_alike {calls : List FilterCall} (hCalls : ∀ call ∈ calls, call.queries env = false)
    {value value' : Value} (h : Alike value value') :
    AlikeResults (runCalls (env.withPolicy .undefined) context calls value)
      (runCalls (env.withPolicy .empty) context calls value') := by
  induction calls generalizing value value' with
  | nil => exact .ok h
  | cons call rest ih =>
    rw [List.forall_mem_cons] at hCalls
    rw [runCalls, runCalls, FilterCall.run_alike hMode context hCalls.1 h]
    exact (AlikeResults.refl _).bind fun _ _ hNext => ih hCalls.2 hNext

/-- Up to the query of a pipeline the two runs have the same value. -/
theorem alikeResults_runCalls {calls : List FilterCall} (hOnce : calls.countP (FilterCall.queries env) ≤ 1)
    (value : Value) :
    AlikeResults (runCalls (env.withPolicy .undefined) context calls value)
      (runCalls (env.withPolicy .empty) context calls value) := by
  induction calls generalizing value with
  | nil => exact .ok (.refl value)
  | cons call rest ih =>
    cases hCall : call.queries env with
    | false =>
      rw [List.countP_cons_of_neg (by simp [hCall])] at hOnce
      rw [runCalls, runCalls, FilterCall.run_alike hMode context hCall (.refl value)]
      cases call.run (env.withPolicy .empty) context value with
      | error e => exact .error e
      | ok next => exact ih hOnce next
    | true =>
      have hRest : ∀ call ∈ rest, call.queries env = false := by
        rw [List.countP_cons_of_pos hCall] at hOnce
        have hNone : rest.countP (FilterCall.queries env) = 0 := Nat.le_zero.1 (Nat.le_of_succ_le_succ hOnce)
        simpa [List.countP_eq_zero] using hNone
      exact (call.alikeResults_run hMode context value).bind fun _ _ hNext =>
        alikeResults_runCalls_of_alike hMode context hRest hNext

theorem outputText_undefined_eq_empty {pipeline : Pipeline} (hOnce : pipeline.QueriesAtMostOnce env) :
    outputText (env.withPolicy .undefined) pipeline context = outputText (env.withPolicy .empty) pipeline context := by
  refine (alikeResults_runCalls hMode context hOnce _).bind_eq fun value value' h => ?_
  rw [Environment.mode_withPolicy, Environment.mode_withPolicy, hMode]
  exact congrArg Except.ok h.text_eq

end Lenient

theorem LoopHeader.alikeResults_target (header : LoopHeader) (context : RenderContext) :
    AlikeResults ((header.withPolicy .undefined).target context) ((header.withPolicy .empty).target context) := by
  obtain ⟨name, source, query, modifiers⟩ := header
  cases query with
  | none => exact .refl _
  | some q => exact alikeResults_resolve _ _

/-- A loop has the same items under both policies. -/
theorem LoopHeader.items_undefined_eq_empty (header : LoopHeader) (context : RenderContext) :
    (header.withPolicy .undefined).items .lenient context = (header.withPolicy .empty).items .lenient context := by
  refine (header.alikeResults_target context).bind_eq fun target target' h => ?_
  rw [Modifiers.itemsOf, Modifiers.itemsOf, h.itemsOf_eq]
  rfl

/-! ## Templates -/

/-- The pipelines of the nodes are those that the output statements of the markup read as. -/
theorem ReadsAs.forall_pipelines {env : Environment} {closing : Option String} {ms : List Markup} {nodes : List Node}
    {P : Pipeline → Prop} (h : ReadsAs env closing ms nodes)
    (hP : ∀ source line, .output source line ∈ ms → ∀ pipeline, Pipeline.ofText source = .ok pipeline → P pipeline) :
    ∀ pipeline ∈ pipelinesOf nodes, P pipeline := by
  induction h with
  | nil => exact List.forall_mem_nil _
  | text content _ ih => exact ih fun source line hMem => hP source line (List.mem_cons_of_mem _ hMem)
  | output line hPipeline _ ih =>
    rw [pipelinesOf, Node.pipelines, List.forall_mem_append, List.forall_mem_singleton]
    refine ⟨hP _ line List.mem_cons_self _ hPipeline, ?_⟩
    exact ih fun source line hMem => hP source line (List.mem_cons_of_mem _ hMem)
  | loop _ _ _ _ _ ihBody ihRest =>
    simp only [List.mem_cons, List.mem_append] at hP
    simp only [pipelinesOf, Node.pipelines, pipelinesOfAlternative, List.forall_mem_append]
    refine ⟨⟨ihBody ?_, List.forall_mem_nil _⟩, ihRest ?_⟩
    · exact fun source line hMem => hP source line (.inr (.inl hMem))
    · exact fun source line hMem => hP source line (.inr (.inr (.inr hMem)))
  | loopElse _ _ _ _ _ _ ihBody ihAlternative ihRest =>
    simp only [List.mem_cons, List.mem_append] at hP
    simp only [pipelinesOf, Node.pipelines, pipelinesOfAlternative, List.forall_mem_append]
    refine ⟨⟨ihBody ?_, ihAlternative ?_⟩, ihRest ?_⟩
    · exact fun source line hMem => hP source line (.inr (.inl hMem))
    · exact fun source line hMem => hP source line (.inr (.inr (.inr (.inl hMem))))
    · exact fun source line hMem => hP source line (.inr (.inr (.inr (.inr (.inr hMem)))))

theorem lockstep_undefined_empty {env : Environment} (hMode : env.mode = .lenient) :
    Lockstep (fun _ => False) (Pipeline.QueriesAtMostOnce env) (env.withPolicy .undefined) (env.withPolicy .empty)
      (LoopHeader.withPolicy .undefined) (LoopHeader.withPolicy .empty) where
  output pipeline hOnce p :=
    sameUnless_renderOutput (.inl (outputText_undefined_eq_empty hMode p.context hOnce))
  variableName _ := rfl
  items header context := .inl (by
    rw [Environment.mode_withPolicy, Environment.mode_withPolicy, hMode, header.items_undefined_eq_empty])

/-- In lenient mode, let no pipeline of a template query more than once. Then, under the policy that makes failed queries
undefined and under the one that makes them empty, the same error comes up when the template is read, or it is read
under both; and every render gives the same text or the same error under both. -/
theorem undefined_and_empty_policies_agree (env : Environment) (source : String) (globals : Dict Json)
    (hOnce : ∀ ms, scan source = .ok ms → ∀ text line, .output text line ∈ ms →
      ∀ pipeline, Pipeline.ofText text = .ok pipeline → pipeline.QueriesAtMostOnce env) :
    (∃ e, Template.ofText ((env.withMode .lenient).withPolicy .undefined) source globals = .error e ∧
      Template.ofText ((env.withMode .lenient).withPolicy .empty) source globals = .error e) ∨
    ∃ undefined empty, Template.ofText ((env.withMode .lenient).withPolicy .undefined) source globals = .ok undefined ∧
      Template.ofText ((env.withMode .lenient).withPolicy .empty) source globals = .ok empty ∧
      ∀ data, undefined.render data = empty.render data := by
  rw [ofText_withPolicy, ofText_withPolicy]
  cases hRead : Template.ofText (env.withMode .lenient) source globals with
  | error e => exact Or.inl ⟨e, rfl, rfl⟩
  | ok template =>
    refine Or.inr ⟨_, _, rfl, rfl, fun data => ?_⟩
    obtain ⟨ms, hScan, hRest⟩ := bind_eq_ok.1 hRead
    obtain ⟨nodes, hNodes, hTemplate⟩ := bind_eq_ok.1 hRest
    cases hTemplate
    have hWrites := (nodesOfMarkup_eq_ok_iff.1 hNodes).forall_pipelines (hOnce ms hScan)
    have hMode : (env.withMode .lenient).mode = .lenient := rfl
    have hNodes := (lockstep_undefined_empty hMode).renderNodes nodes hWrites
    exact sameUnless_false.1 (SameUnless.bind (.refl _) fun context => (hNodes ⟨context, ""⟩).resultOf)

/-- The size of a team and its members, where the team may be no data to query at all. -/
def teamPage : String :=
  "\x7b\x7b team | find: '$.*' | size \x7d\x7d\x7b% for x in team | '$.*' %\x7d\x7b\x7b x \x7d\x7d\x7b% else %\x7d-\x7b% endfor %\x7d"

theorem scan_teamPage : scan teamPage = .ok [.output "team | find: '$.*' | size" 1,
    .tag "for" "x in team | '$.*'" 1, .output "x" 1, .tag "else" "" 1, .text "-", .tag "endfor" "" 1] := rfl

theorem undefined_and_empty_policies_agree_teamPage :
    (∀ ms, scan teamPage = .ok ms → ∀ text line, .output text line ∈ ms →
      ∀ pipeline, Pipeline.ofText text = .ok pipeline →
        pipeline.QueriesAtMostOnce (.withQueries (.standard .raise))) ∧
    ∃ undefined empty,
      Template.ofText (((Environment.withQueries (.standard .raise)).withMode .lenient).withPolicy .undefined) teamPage [] =
        .ok undefined ∧
      Template.ofText (((Environment.withQueries (.standard .raise)).withMode .lenient).withPolicy .empty) teamPage [] =
        .ok empty ∧
      ∀ data, undefined.render data = empty.render data := by
  have hOnce : ∀ ms, scan teamPage = .ok ms → ∀ text line, .output text line ∈ ms →
      ∀ pipeline, Pipeline.ofText text = .ok pipeline →
        pipeline.QueriesAtMostOnce (.withQueries (.standard .raise)) := by
    intro ms hScan text line hMem pipeline hPipeline
    cases scan_teamPage.symm.trans hScan
    simp only [List.mem_cons, Markup.output.injEq, reduceCtorEq, false_or, or_false, List.not_mem_nil] at hMem
    obtain ⟨rfl, -⟩ | ⟨rfl, -⟩ := hMem
    · cases hPipeline
      unfold Pipeline.QueriesAtMostOnce
      decide
    · cases hPipeline
      unfold Pipeline.QueriesAtMostOnce
      decide
  refine ⟨hOnce, ?_⟩
  obtain ⟨e, hError, -⟩ | hAgree := undefined_and_empty_policies_agree _ teamPage [] hOnce
  · cases hError
  · exact hAgree

end TemplateQuery.Template
