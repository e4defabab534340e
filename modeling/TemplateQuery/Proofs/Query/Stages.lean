import TemplateQuery.Proofs.Query.Failure
import TemplateQuery.Proofs.Query.Reading

/-!
# Errors of the text and errors of the evaluation

The two kinds of query errors belong to the two stages of a query. Compiling finds everything that is wrong with the
text, the names of functions included, so that a compiled query can fail only in a function that it calls.
-/
namespace TemplateQuery.Query

open Text (skipBlank)

theorem Fault.isOfText_toError (length : Nat) (fault : Fault) : (fault.toError length).isOfText = true := by
  cases fault with
  | expected what rest => cases rest <;> rfl
  | _ => rfl

theorem isOfText_of_compile_error {functions : FunctionTable} {source : String} {e : Error}
    (h : compile functions source = .error e) : e.isOfText = true := by
  simp only [compile] at h
  split at h
  · cases h
  · rename_i fault hRead
    cases h
    exact fault.isOfText_toError _

theorem readQuery_root {known : String → Bool} {s : List Char} {segments : List Segment}
    (h : readQuery known s = .ok segments) : ∃ rest, skipBlank s = '$' :: rest := by
  unfold readQuery at h
  split at h
  · exact ⟨_, by assumption⟩
  · cases h

/-- Running a query is evaluating its path from the document. -/
theorem Compiled.evaluate_path_document (query : Compiled) (document extra current : Json) :
    evaluate ⟨document, extra, query.functions⟩ (.path .document query.segments) current =
      (query.run document extra).map (pathOperand query.segments) := by
  rw [evaluate, Compiled.run, Scope.start]
  cases follow ⟨document, extra, query.functions⟩ query.segments [document] with
  | error e => rfl
  | ok nodes => rfl

/-- Compiling fails with errors of the text only. A compiled query starts at the document, has well-shaped unions and
descents and calls known functions only, at any depth; whatever data it is run on, its errors are errors that one of
the functions of its table returned. So it never fails if it calls no function, and with the standard functions it only
fails with errors of the evaluation. -/
theorem errors_of_stages [PatternEngine] (functions : FunctionTable) (source : String) :
    (∀ e, compile functions source = .error e → e.isOfText = true) ∧
    ∀ query, compile functions source = .ok query →
      (∃ rest, skipBlank source.toList = '$' :: rest) ∧ EverywhereOn functions.shape query.segments ∧
      ∀ document extra,
        (∀ current, evaluate ⟨document, extra, functions⟩ (.path .document query.segments) current =
          (query.run document extra).map (pathOperand query.segments)) ∧
        (∀ e, query.run document extra = .error e →
          ∃ name function operands, Dict.get? functions name = some function ∧ function operands = .error e) ∧
        (EverywhereOn (callsOnly fun _ => False) query.segments → ∃ nodes, query.run document extra = .ok nodes) ∧
        (functions = standardFunctions → ∀ e, query.run document extra = .error e →
          ∃ message, e = .evaluation message) := by
  refine ⟨fun e => isOfText_of_compile_error, fun query hCompile => ?_⟩
  obtain ⟨hRead, -, rfl⟩ := compile_eq_ok hCompile
  have hShape := readQuery_wellShaped hRead
  have hCalls : EverywhereOn (callsOnly fun name => query.functions.knows name = true) query.segments := by
    refine hShape.mono (fun s _ => ?_) (fun e he => ?_)
    · trivial
    · exact he
  refine ⟨readQuery_root hRead, hShape, fun document extra => ⟨?_, ?_, ?_, ?_⟩⟩
  · exact query.evaluate_path_document document extra
  · exact query.failsOnly_run hCalls query.functions.failsOnly_call document extra
  · intro hNone
    have hNever : FailsOnly (fun _ => False) (query.run document extra) :=
      query.failsOnly_run hNone (fun _ h => h.elim) document extra
    cases hRun : query.run document extra with
    | ok nodes => exact ⟨nodes, rfl⟩
    | error e => exact (hNever e hRun).elim
  · intro hStandard
    refine query.failsOnly_run hCalls (fun name known operands e he => ?_) document extra
    obtain ⟨name, function, operands, hFunction, hFails⟩ := query.functions.failsOnly_call name known operands e he
    rw [hStandard] at hFunction
    exact standardFunctions_failsOnly hFunction operands e hFails

end TemplateQuery.Query
