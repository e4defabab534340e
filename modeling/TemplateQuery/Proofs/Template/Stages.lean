import TemplateQuery.Proofs.Classification
import TemplateQuery.Proofs.Template.Failing
import TemplateQuery.Proofs.Template.Pausing
import TemplateQuery.Proofs.Template.Reading
import TemplateQuery.Proofs.Template.Scanning

/-!
# The stages of an error

A template is read, and then it is rendered, and each of its errors belongs to one of these stages. Reading fails with
errors of the text only, which say on which line of the text the fault stands. Rendering never fails with such an error;
and since the paths of loops are compiled when the template is read, no loop ever fails over the text of its path.
-/
namespace TemplateQuery.Template

/-- An error of the text of a template. -/
def Error.IsSyntax : Error → Prop
  | .malformed _ _ => True
  | .unbalanced _ _ => True
  | _ => False

/-- The message names a line by its number. -/
def NamesLine (message : String) (line : Nat) : Prop :=
  ∃ before after, message = before ++ "on line " ++ toString line ++ after ∧ ∀ c ∈ after.toList.head?, c.isDigit = false

section Messages

variable {e : Error} {line : Nat}

theorem Error.isSyntax_of_line? (h : e.line? = some line) : e.IsSyntax := by
  cases e with
  | malformed cause line => trivial
  | unbalanced fault line => trivial
  | _ => cases h

theorem NamesLine.append {message : String} (h : NamesLine message line) (front : String) :
    NamesLine (front ++ message) line := by
  obtain ⟨before, after, rfl, hAfter⟩ := h
  exact ⟨front ++ before, after, by simp only [String.append_assoc], hAfter⟩

theorem namesLine_of_sign {gap sign : String} (hGap : gap = sign ++ "on line ") (line : Nat) {after : String}
    (hAfter : ∀ c ∈ after.toList.head?, c.isDigit = false) : NamesLine (gap ++ toString line ++ after) line :=
  ⟨sign, after, by rw [hGap], hAfter⟩

theorem namesLine_at_end {gap sign : String} (hGap : gap = sign ++ "on line ") (line : Nat) :
    NamesLine (gap ++ toString line) line := by
  have hNothing : ∀ c ∈ ("" : String).toList.head?, c.isDigit = false := by simp
  have h := namesLine_of_sign hGap line hNothing
  rwa [String.append_empty] at h

theorem MarkupFault.namesLine (fault : MarkupFault) (line : Nat) : NamesLine (fault.text line) line := by
  have hQuote : "' on line " = "' " ++ "on line " := by decide
  have hQuoted : ∀ front : String, NamesLine (front ++ "' on line " ++ toString line) line := fun front => by
    rw [String.append_assoc]
    exact (namesLine_at_end hQuote line).append front
  cases fault with
  | unclosed opening => exact hQuoted ("unclosed '" ++ opening)
  | emptyTag =>
    have hTag : "empty tag on line " = "empty tag " ++ "on line " := by decide
    exact namesLine_at_end hTag line
  | strayTag name => exact hQuoted ("unexpected '" ++ name)
  | unknownTag name => exact hQuoted ("unknown tag '" ++ name)
  | secondElse =>
    have hElse : "unexpected second 'else' on line " = "unexpected second 'else' " ++ "on line " := by decide
    exact namesLine_at_end hElse line
  | missingEnd name =>
    have hSpace : ∀ c ∈ (" is missing 'end" ++ (name ++ "'")).toList.head?, c.isDigit = false := by simp
    have h := (namesLine_of_sign hQuote line hSpace).append ("'" ++ name)
    simp only [← String.append_assoc] at h
    exact h

/-- What an error of reading says about its line. -/
theorem Error.namesLine (h : e.line? = some line) : NamesLine e.message line := by
  cases e with
  | malformed cause _ =>
    cases h
    have hSpace : " on line " = " " ++ "on line " := by decide
    exact (namesLine_at_end hSpace line).append ("syntax error: " ++ cause.text)
  | unbalanced fault _ =>
    cases h
    exact (fault.namesLine line).append "syntax error: "
  | _ => cases h

theorem Error.OfRendering.not_isSyntax {mode : UndefinedMode} (h : e.OfRendering mode) : ¬e.IsSyntax := by
  cases h <;> exact not_false

end Messages

/-! ## Reading -/

/-- A template has a fault at an opening, which stands between what comes before it and what comes behind it: the scan
fails there, or the markup that opens there is at fault. -/
inductive FaultIn (env : Environment) (source : String) : List Char → Opening → List Char → Error → Prop where
  | scan {s : Scan} {text behind : List Char} {opening : Opening} {e : Error} (hReached : Scan.Reached source s)
    (hFails : s.Fails text opening behind e) : FaultIn env source (s.before ++ text) opening behind e
  | markup {s : Scan} {text behind inside after : List Char} {opening : Opening} {m : Markup} {back : List Markup}
    {e : Error} (hScan : scan source = .ok (s.markupBefore text inside ++ m :: back)) (hReached : Scan.Reached source s)
    (hReads : s.Reads text opening behind inside after m)
    (hFault : TemplateFault env (s.markupBefore text inside) m back e) :
    FaultIn env source (s.before ++ text) opening behind e

section Reading

variable {env : Environment} {source : String} {before behind : List Char} {opening : Opening} {e : Error}

theorem FaultIn.source_eq (h : FaultIn env source before opening behind e) :
    source.toList = before ++ (opening.text.toList ++ behind) := by
  cases h with
  | scan hReached hFails => exact hReached.source_eq_of_meets hFails.meets
  | markup _ hReached hReads _ => exact hReached.source_eq_of_meets hReads.meets

theorem FaultIn.line?_eq (h : FaultIn env source before opening behind e) : e.line? = some (1 + newlines before) := by
  cases h with
  | scan _ hFails => exact hFails.line?_eq
  | markup _ _ hReads hFault =>
    obtain ⟨line, hMarkup, hError⟩ := hFault.exists_line
    rw [hReads.line?_eq] at hMarkup
    rw [hError, hMarkup]

/-- Reading a template fails just with its faults. -/
theorem ofText_eq_error_iff {globals : Dict Json} :
    Template.ofText env source globals = .error e ↔
      ∃ before opening behind, FaultIn env source before opening behind e := by
  have hRead : Template.ofText env source globals = .error e ↔ scan source >>= nodesOfMarkup env = .error e := by
    rw [ofText_eq_map]
    cases scan source >>= nodesOfMarkup env <;> simp [Except.map]
  rw [hRead, bind_eq_error, Scan.scan_eq_error_iff]
  constructor
  · rintro (⟨s, text, opening, behind, hReached, hFails⟩ | ⟨ms, hScan, hNodes⟩)
    · exact ⟨_, opening, behind, .scan hReached hFails⟩
    · obtain ⟨front, m, back, rfl, hFault⟩ := nodesOfMarkup_eq_error_iff.1 hNodes
      obtain ⟨line, hLine, -⟩ := hFault.exists_line
      obtain ⟨s, text, opening, behind, inside, after, hReached, hReads, rfl⟩ := Scan.exists_reads_of_scan hScan hLine
      exact ⟨_, opening, behind, .markup hScan hReached hReads hFault⟩
  · rintro ⟨before, opening, behind, hFault⟩
    cases hFault with
    | scan hReached hFails => exact .inl ⟨_, _, opening, behind, hReached, hFails⟩
    | markup hScan _ _ hFault => exact .inr ⟨_, hScan, nodesOfMarkup_eq_error_iff.2 ⟨_, _, _, rfl, hFault⟩⟩

end Reading

/-! ## Rendering -/

section Rendering

variable {env : Environment} {mode : UndefinedMode} {context : RenderContext} {e : Error}

/-- A query that is compiled already cannot fail over its text. -/
theorem cause_ne_invalidPath_of_applyCompiled {policy : Policy} {query : Query.Compiled} {value : Value} {extra : Json}
    {failure : Failure} (h : applyCompiled policy query value extra = .error failure) (cause : Query.Error) :
    failure.cause ≠ .invalidPath cause := by
  obtain ⟨-, hOutcome⟩ := Policy.eq_raise_of_resolve_error h
  rcases bind_eq_error.1 hOutcome with hValue | ⟨document, -, hRun⟩
  · unfold traversable at hValue
    split at hValue <;> cases hValue
    rintro ⟨⟩
  · unfold runQuery at hRun
    split at hRun <;> cases hRun
    rintro ⟨⟩

theorem LoopHeader.cause_ne_invalidPath_of_target {header : LoopHeader} {failure : Failure}
    (h : header.target context = .error (.type (.query failure))) (cause : Query.Error) :
    failure.cause ≠ .invalidPath cause := by
  rw [target] at h
  cases hQuery : header.query with
  | none =>
    rw [hQuery] at h
    cases h
  | some q =>
    simp only [hQuery] at h
    split at h
    · cases h
    · rename_i hApplied
      cases h
      exact cause_ne_invalidPath_of_applyCompiled hApplied cause

theorem UndefinedMode.exists_undefined_of_check {value : Value} (h : mode.check value = .error e) :
    ∃ hint, e = .undefined hint := by
  unfold check at h
  split at h <;> cases h
  exact ⟨_, rfl⟩

/-- No query that a loop fails with has failed over the text of its path. -/
theorem LoopHeader.cause_ne_invalidPath_of_items {header : LoopHeader} {failure : Failure}
    (h : header.items mode context = .error e) (hFailure : e.failure? = some failure) (cause : Query.Error) :
    failure.cause ≠ .invalidPath cause := by
  rcases bind_eq_error.1 h with hTarget | ⟨target, -, hItems⟩
  · obtain ⟨failure', rfl⟩ := exists_query_of_target_error hTarget
    cases hFailure
    exact cause_ne_invalidPath_of_target hTarget cause
  · rcases bind_eq_error.1 hItems with hCheck | ⟨⟨⟩, -, hApply⟩
    · obtain ⟨hint, rfl⟩ := UndefinedMode.exists_undefined_of_check hCheck
      cases hFailure
    · obtain ⟨name, found, rfl⟩ := Modifiers.exists_loopBound_of_apply_error hApply
      cases hFailure

theorem FilterCall.ne_type_of_run {call : FilterCall} {value : Value} (h : call.run env context value = .error e)
    (problem : TypeProblem) : e ≠ .type problem := by
  rw [run] at h
  cases hFilter : Dict.get? env.filters call.name with
  | none =>
    rw [hFilter] at h
    cases h
    rintro ⟨⟩
  | some filter =>
    rw [hFilter] at h
    have hArgument : filter.apply value (call.arguments.map (Expression.evaluate context)) context.globals = .error e →
        e ≠ .type problem := by
      intro hApply
      obtain ⟨name, problem', rfl⟩ := Filter.exists_argument_of_error hApply
      rintro ⟨⟩
    by_cases hAccepts : filter.acceptsUndefined
    · simp only [hAccepts, Bool.not_true, Bool.false_eq_true, if_false] at h
      exact hArgument h
    · simp only [hAccepts, Bool.not_false, if_true] at h
      rcases bind_eq_error.1 h with hCheck | ⟨⟨⟩, -, hApply⟩
      · obtain ⟨hint, rfl⟩ := UndefinedMode.exists_undefined_of_check hCheck
        rintro ⟨⟩
      · exact hArgument hApply

theorem ne_type_of_runCalls {calls : List FilterCall} {value : Value} (h : runCalls env context calls value = .error e)
    (problem : TypeProblem) : e ≠ .type problem := by
  induction calls generalizing value with
  | nil => cases h
  | cons call rest ih =>
    rcases bind_eq_error.1 h with hCall | ⟨next, -, hRest⟩
    · exact call.ne_type_of_run hCall problem
    · exact ih hRest

theorem ne_type_of_outputText {pipeline : Pipeline} (h : outputText env pipeline context = .error e)
    (problem : TypeProblem) : e ≠ .type problem := by
  rcases bind_eq_error.1 h with hValue | ⟨value, -, hOutput⟩
  · exact ne_type_of_runCalls hValue problem
  · rcases bind_eq_error.1 hOutput with hCheck | ⟨⟨⟩, -, hText⟩
    · obtain ⟨hint, rfl⟩ := UndefinedMode.exists_undefined_of_check hCheck
      rintro ⟨⟩
    · cases hText

/-- Among the errors of a render, the failed queries of loops have not failed over the text of their paths. -/
theorem cause_ne_invalidPath_of_render {template : Template} {data : Json} {failure : Failure}
    (h : template.render data = .error (.type (.query failure))) (cause : Query.Error) :
    failure.cause ≠ .invalidPath cause := by
  rcases exists_failing_of_render h with ⟨found, hData⟩ | ⟨context, found, q, -, hFails⟩
  · cases hData
  · cases found with
    | text content => exact hFails.elim
    | output pipeline => exact absurd rfl (ne_type_of_outputText hFails _)
    | loop header body alternative => exact LoopHeader.cause_ne_invalidPath_of_items hFails rfl cause

end Rendering

/-- Errors belong to their stage. Whatever a template cannot be read for is an error of its text, found at an opening in
the source, and its message names the line of that opening: one more than the line breaks in front of it. Once it has
been read, no render of it, pausing or not, fails with such an error, and no loop fails over the text of its path. -/
theorem errors_belong_to_their_stage (env : Environment) (source : String) (globals : Dict Json) :
    (∀ e, Template.ofText env source globals = .error e →
      ∃ before opening behind, FaultIn env source before opening behind e ∧
        source.toList = before ++ (opening.text.toList ++ behind) ∧
        e.IsSyntax ∧ NamesLine e.message (1 + newlines before)) ∧
    (∀ template, Template.ofText env source globals = .ok template → ∀ data e,
      (template.render data = .error e ∨ (template.renderPausing data).run = .error e) →
        ¬e.IsSyntax ∧ ∀ failure cause, e = .type (.query failure) → failure.cause ≠ .invalidPath cause) ∧
    ∀ (header : LoopHeader) (mode : UndefinedMode) (context : RenderContext) (e : Error) (failure : Failure)
      (cause : Query.Error), header.items mode context = .error e → e.failure? = some failure →
        failure.cause ≠ .invalidPath cause := by
  refine ⟨fun e h => ?_, fun template _ data e h => ?_, fun header mode context e failure cause h hFailure => ?_⟩
  · obtain ⟨before, opening, behind, hFault⟩ := ofText_eq_error_iff.1 h
    have hLine : e.line? = some (1 + newlines before) := hFault.line?_eq
    exact ⟨before, opening, behind, hFault, hFault.source_eq, Error.isSyntax_of_line? hLine, Error.namesLine hLine⟩
  · rw [run_renderPausing, or_self] at h
    refine ⟨(ofRendering_of_render h).not_isSyntax, ?_⟩
    rintro failure cause rfl
    exact cause_ne_invalidPath_of_render h cause
  · exact LoopHeader.cause_ne_invalidPath_of_items h hFailure cause

example : Template.ofText .standard "one\n\x7b% for x in xs %\x7d\ntwo" [] = .error (missingEnd "for" 2) := rfl

end TemplateQuery.Template
