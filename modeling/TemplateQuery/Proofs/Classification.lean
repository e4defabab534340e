import TemplateQuery.Pattern.Reader
import TemplateQuery.Proofs.Application
import TemplateQuery.Proofs.Query.Stages

/-!
# Failures and policies

Applying a path to a value comes to matches or to a failure, and the first thing that is wrong says which failure it is:
the value, then the text of the path, then the evaluation. A failure of the path has an error of the text behind it, and
a failure of the evaluation never has. Only a failure is put before the policy, and the policy sees nothing else.
-/
namespace TemplateQuery

def Value.IsTraversable : Value → Prop
  | .defined document => document.IsTraversable
  | .undefined _ => False

theorem traversable_of_not_isTraversable {value : Value} (h : ¬value.IsTraversable) (path : String) :
    traversable path value = .error ⟨path, .wrongInput value.kind⟩ := by
  cases value with
  | undefined hint => rfl
  | defined document =>
    cases document with
    | array items => exact absurd trivial h
    | object members => exact absurd trivial h
    | _ => rfl

/-! ## Errors of compiled queries -/

/-- The functions of the table fail with errors of the evaluation only. -/
def Query.FunctionTable.FailsInEvaluation (functions : Query.FunctionTable) : Prop :=
  ∀ name function, Dict.get? functions name = some function → ∀ operands,
    Query.FailsOnly Query.Error.IsEvaluation (function operands)

theorem Query.standardFunctions_failsInEvaluation [Query.PatternEngine] : Query.standardFunctions.FailsInEvaluation :=
  fun _ _ => Query.standardFunctions_failsOnly

/-- A query that has been compiled fails as the functions of its table do. -/
theorem Query.failsOnly_run_of_compile {kind : Query.Error → Prop} {functions : Query.FunctionTable} {source : String}
    {query : Query.Compiled} (hCompile : Query.compile functions source = .ok query)
    (hFunctions : ∀ name function, Dict.get? functions name = some function → ∀ operands,
      Query.FailsOnly kind (function operands)) (document extra : Json) :
    Query.FailsOnly kind (query.run document extra) := by
  obtain ⟨hRead, -, rfl⟩ := Query.compile_eq_ok hCompile
  have hCalls : Query.EverywhereOn (Query.callsOnly fun name => query.functions.knows name = true) query.segments := by
    refine (Query.readQuery_wellShaped hRead).mono (fun s _ => ?_) (fun e he => ?_)
    · trivial
    · exact he
  refine query.failsOnly_run hCalls (fun name known operands e he => ?_) document extra
  obtain ⟨_, function, operands, hFunction, hFails⟩ := query.functions.failsOnly_call name known operands e he
  exact hFunctions _ function hFunction operands e hFails

/-! ## What policies make of a failure -/

/-- What applying a path to a value comes to before the policy is asked. -/
def outcomeOfPath (functions : Query.FunctionTable) (value : Value) (path : String) (extra : Json) :
    Except Failure (List Json) := do
  let document ← traversable path value
  let query ← compileQuery functions path
  runQuery query document extra

/-- A path cannot be applied to a value for some cause: the first policy raises a failure that names the path, the
second one gives an undefined value that says what this failure says, and the third one gives no matches. -/
structure FailsToApply (functions : Query.FunctionTable) (value : Value) (path : String) (extra : Json)
    (cause : FailureCause) : Prop where
  raise : QuerySettings.apply ⟨.raise, functions⟩ value path extra = .error ⟨path, cause⟩
  undefined : QuerySettings.apply ⟨.undefined, functions⟩ value path extra =
    .ok (.undefined (Failure.mk path cause).message)
  empty : QuerySettings.apply ⟨.empty, functions⟩ value path extra = .ok (.found [])

section Policies

variable {functions : Query.FunctionTable} {value : Value} {path : String} {extra : Json}

theorem QuerySettings.apply_eq_resolve (policy : Policy) :
    QuerySettings.apply ⟨policy, functions⟩ value path extra =
      policy.resolve (outcomeOfPath functions value path extra) := rfl

theorem failsToApply_of_outcome {cause : FailureCause}
    (h : outcomeOfPath functions value path extra = .error ⟨path, cause⟩) :
    FailsToApply functions value path extra cause where
  raise := by
    rw [QuerySettings.apply_eq_resolve, h]
    rfl
  undefined := by
    rw [QuerySettings.apply_eq_resolve, h]
    rfl
  empty := by
    rw [QuerySettings.apply_eq_resolve, h]
    rfl

theorem outcomeOfPath_of_not_isTraversable (h : ¬value.IsTraversable) :
    outcomeOfPath functions value path extra = .error ⟨path, .wrongInput value.kind⟩ := by
  rw [outcomeOfPath, traversable_of_not_isTraversable h]
  rfl

theorem outcomeOfPath_of_compile_error {document : Json} (hDocument : document.IsTraversable) {e : Query.Error}
    (h : Query.compile functions path = .error e) :
    outcomeOfPath functions (.defined document) path extra = .error ⟨path, .invalidPath e⟩ := by
  rw [outcomeOfPath, hDocument.traversable_eq, compileQuery, h]
  rfl

theorem outcomeOfPath_of_compile {document : Json} (hDocument : document.IsTraversable) {query : Query.Compiled}
    (h : Query.compile functions path = .ok query) :
    outcomeOfPath functions (.defined document) path extra = runQuery query document extra := by
  rw [outcomeOfPath, hDocument.traversable_eq, compileQuery_eq_ok h]
  rfl

theorem Policy.eq_raise_of_resolve_error {policy : Policy} {x : Except Failure (List Json)} {failure : Failure}
    (h : policy.resolve x = .error failure) : policy = .raise ∧ x = .error failure := by
  cases x with
  | ok values => cases h
  | error failure' =>
    cases policy <;> cases h
    exact ⟨rfl, rfl⟩

theorem Policy.eq_undefined_of_resolve {policy : Policy} {x : Except Failure (List Json)} {hint : String}
    (h : policy.resolve x = .ok (.undefined hint)) :
    policy = .undefined ∧ ∃ failure, x = .error failure ∧ hint = failure.message := by
  cases x with
  | ok values => cases h
  | error failure =>
    cases policy <;> cases h
    exact ⟨rfl, failure, rfl, rfl⟩

theorem path_of_outcomeOfPath_error {failure : Failure}
    (h : outcomeOfPath functions value path extra = .error failure) : failure.path = path := by
  by_cases hValue : value.IsTraversable
  · cases value with
    | undefined hint => exact hValue.elim
    | defined document =>
      cases hCompile : Query.compile functions path with
      | error e =>
        rw [outcomeOfPath_of_compile_error hValue hCompile] at h
        cases h
        rfl
      | ok query =>
        rw [outcomeOfPath_of_compile hValue hCompile, runQuery, (Query.compile_eq_ok hCompile).2.1] at h
        split at h <;> cases h
        rfl
  · rw [outcomeOfPath_of_not_isTraversable hValue] at h
    cases h
    rfl

end Policies

/-- Let the functions of a table fail with errors of the evaluation only. Applied to anything but an array or an object,
a path fails for the value, whatever the path is, and no query error is behind that. Applied to an array or an object it
fails for its text if it does not compile, and the error behind that is one of the text; it fails for its evaluation if
that fails, and the error behind that is none of the text; otherwise every policy gives its matches. Only one policy
raises failures, and an undefined value always stands for a failure and says what it would have said. -/
theorem apply_classifies_failures {functions : Query.FunctionTable} (hFunctions : functions.FailsInEvaluation)
    (value : Value) (path : String) (extra : Json) :
    (¬value.IsTraversable → FailsToApply functions value path extra (.wrongInput value.kind) ∧
      (Failure.mk path (.wrongInput value.kind)).queryError? = none) ∧
    (∀ document, value = .defined document → document.IsTraversable →
      (∀ e, Query.compile functions path = .error e →
        FailsToApply functions value path extra (.invalidPath e) ∧ e.isOfText = true) ∧
      ∀ query, Query.compile functions path = .ok query →
        (∀ e, query.run document extra = .error e →
          FailsToApply functions value path extra (.evaluation e) ∧ e.isOfText = false) ∧
        ∀ values, query.run document extra = .ok values → ∀ policy,
          QuerySettings.apply ⟨policy, functions⟩ value path extra = .ok (.found values)) ∧
    (∀ policy failure, QuerySettings.apply ⟨policy, functions⟩ value path extra = .error failure →
      policy = .raise ∧ failure.path = path) ∧
    ∀ policy hint, QuerySettings.apply ⟨policy, functions⟩ value path extra = .ok (.undefined hint) →
      policy = .undefined ∧ ∃ failure, QuerySettings.apply ⟨.raise, functions⟩ value path extra = .error failure ∧
        hint = failure.message := by
  refine ⟨fun hValue => ⟨failsToApply_of_outcome (outcomeOfPath_of_not_isTraversable hValue), rfl⟩, ?_, ?_, ?_⟩
  · rintro document rfl hDocument
    refine ⟨fun e hCompile => ⟨?_, Query.isOfText_of_compile_error hCompile⟩, fun query hCompile => ⟨?_, ?_⟩⟩
    · exact failsToApply_of_outcome (outcomeOfPath_of_compile_error hDocument hCompile)
    · intro e hRun
      have hSource : query.source = path := (Query.compile_eq_ok hCompile).2.1
      obtain ⟨message, rfl⟩ := Query.failsOnly_run_of_compile hCompile hFunctions document extra e hRun
      refine ⟨failsToApply_of_outcome ?_, rfl⟩
      rw [outcomeOfPath_of_compile hDocument hCompile, runQuery, hRun, hSource]
    · intro values hRun policy
      rw [QuerySettings.apply_eq_resolve, outcomeOfPath_of_compile hDocument hCompile, runQuery, hRun]
      rfl
  · intro policy failure h
    rw [QuerySettings.apply_eq_resolve] at h
    obtain ⟨hPolicy, hOutcome⟩ := Policy.eq_raise_of_resolve_error h
    exact ⟨hPolicy, path_of_outcomeOfPath_error hOutcome⟩
  · intro policy hint h
    rw [QuerySettings.apply_eq_resolve] at h
    obtain ⟨hPolicy, failure, hOutcome, hHint⟩ := Policy.eq_undefined_of_resolve h
    refine ⟨hPolicy, failure, ?_, hHint⟩
    rw [QuerySettings.apply_eq_resolve, hOutcome]
    rfl

/-- A path that counts something that is no path. -/
def countsNoPath : Query.Compiled where
  source := "$[?count(1) > 0]"
  segments := [.filter (.compare (.call "count" [.literal (.ofNat 1)]) .greater (.literal (.ofNat 0)))]
  functions := Query.standardFunctions

theorem apply_classifies_failures_countsNoPath :
    Query.standardFunctions.FailsInEvaluation ∧
    Query.compile Query.standardFunctions "$[?count(1) > 0]" = .ok countsNoPath ∧
    FailsToApply Query.standardFunctions (.defined (.array [.null])) "$[?count(1) > 0]" .null
      (.evaluation (.evaluation "count() expects a path argument")) ∧
    FailsToApply Query.standardFunctions (.defined (.object [])) "$[" .null (.invalidPath (.ended .selector)) ∧
    FailsToApply Query.standardFunctions (.undefined "'x' is undefined") "$[" .null (.wrongInput .undefined) ∧
    QuerySettings.apply ⟨.undefined, Query.standardFunctions⟩ (.defined (.array [])) "$[?count(1) > 0]" .null =
      .ok (.found []) := by
  have hFunctions := Query.standardFunctions_failsInEvaluation
  have hCompile : Query.compile Query.standardFunctions "$[?count(1) > 0]" = .ok countsNoPath := rfl
  have hUnclosed : Query.compile Query.standardFunctions "$[" = .error (.ended .selector) := rfl
  obtain ⟨-, hArray, -⟩ := apply_classifies_failures hFunctions (.defined (.array [.null])) "$[?count(1) > 0]" .null
  obtain ⟨-, hEmpty, -⟩ := apply_classifies_failures hFunctions (.defined (.array [])) "$[?count(1) > 0]" .null
  obtain ⟨-, hObject, -⟩ := apply_classifies_failures hFunctions (.defined (.object [])) "$[" .null
  obtain ⟨hUndefined, -⟩ := apply_classifies_failures hFunctions (.undefined "'x' is undefined") "$[" .null
  refine ⟨hFunctions, hCompile, ?_, ?_, ?_, ?_⟩
  · exact (((hArray _ rfl trivial).2 _ hCompile).1 _ rfl).1
  · exact ((hObject _ rfl trivial).1 _ hUnclosed).1
  · exact (hUndefined id).1
  · exact ((hEmpty _ rfl trivial).2 _ hCompile).2 _ rfl .undefined

end TemplateQuery
