import Mathlib.Logic.Function.Iterate
import TemplateQuery.Template.Basic

/-!
# Pausing renders

A render that pauses is the other render cut into pieces: resumed to its end, it has come to the same progress with the
same error. An executor holds any number of such renders and polls them in any order, so what one of them gives depends
on nothing but how often it was polled.
-/
namespace TemplateQuery.Template

namespace Task

variable {α β : Type}

/-- How often the task pauses before it ends. -/
def pauses : Task α → Nat
  | .done _ => 0
  | .paused resume => pauses (resume ()) + 1

theorem run_andThen (next : α → Task β) (task : Task α) : (andThen next task).run = (next task.run).run := by
  induction task with
  | done x => rfl
  | paused resume ih => exact ih ()

@[simp] theorem run_yielding (task : Task α) : (yielding task).run = task.run := rfl

theorem run_orFail (task : Task Outcome) (next : Progress → Task Outcome) :
    (task.orFail next).run = task.run.andThen fun p => (next p).run := by
  rw [orFail, run_andThen]
  rcases task.run with ⟨p, _ | ⟨⟨⟩⟩⟩ <;> rfl

/-- Polling further does not change the result of a task that has ended. -/
theorem poll_iterate_done (n : Nat) (x : α) : poll^[n] (.done x) = .done x :=
  Function.iterate_fixed rfl n

/-- A task ends at its last pause, and then only with what it gives when it is resumed to the end. -/
theorem poll_iterate_eq_done_iff (task : Task α) (n : Nat) (x : α) :
    poll^[n] task = .done x ↔ task.pauses ≤ n ∧ x = task.run := by
  induction task generalizing n with
  | done y => simp [poll_iterate_done, pauses, run, eq_comm]
  | paused resume ih =>
    cases n with
    | zero => simp [pauses]
    | succ n =>
      rw [Function.iterate_succ_apply, poll, ih]
      simp [pauses, run]

end Task

/-! ## The same steps -/

section Loop

variable (name : String) {pausing : Progress → Task Outcome} {body : Progress → Outcome}

theorem run_renderEachPausing (h : ∀ p, (pausing p).run = body p) (length index : Nat) (items : List Json)
    (p : Progress) :
    (renderEachPausing name length pausing index items p).run = renderEach name length body index items p := by
  induction items generalizing index p with
  | nil => rfl
  | cons item rest ih =>
    rw [renderEachPausing, Task.run_yielding, Task.run_orFail, h, renderEach]
    congr 1
    funext q
    exact ih (index + 1) q

theorem run_renderItemsPausing {pausingElse : Progress → Task Outcome} {alternative : Progress → Outcome}
    (h : ∀ p, (pausing p).run = body p) (hElse : ∀ p, (pausingElse p).run = alternative p) (items : List Json)
    (p : Progress) :
    (renderItemsPausing name items pausing pausingElse p).run = renderItems name items body alternative p := by
  cases items with
  | nil => exact hElse p
  | cons item rest =>
    rw [renderItemsPausing, Task.run_andThen, run_renderEachPausing name h]
    · rfl
    · exact List.cons_ne_nil item rest

end Loop

mutual

theorem run_renderNodePausing (env : Environment) :
    ∀ (node : Node) (p : Progress), (renderNodePausing env node p).run = renderNode env node p
  | .text _, _ => rfl
  | .output _, _ => rfl
  | .loop header body alternative, p => by
    rw [renderNodePausing, renderNode]
    cases header.items env.mode p.context with
    | error e => rfl
    | ok items =>
      exact run_renderItemsPausing _ (run_renderNodesPausing env body)
        (run_renderAlternativePausing env alternative) items p
termination_by structural node => node

theorem run_renderAlternativePausing (env : Environment) :
    ∀ (nodes : Option (List Node)) (p : Progress),
      (renderAlternativePausing env nodes p).run = renderAlternative env nodes p
  | none, _ => rfl
  | some nodes, p => run_renderNodesPausing env nodes p
termination_by structural nodes => nodes

theorem run_renderNodesPausing (env : Environment) :
    ∀ (nodes : List Node) (p : Progress), (renderNodesPausing env nodes p).run = renderNodes env nodes p
  | [], _ => rfl
  | node :: rest, p => by
    rw [renderNodesPausing, renderNodes, Task.run_orFail, run_renderNodePausing env node p]
    congr 1
    funext q
    exact run_renderNodesPausing env rest q
termination_by structural nodes => nodes

end

theorem run_renderPausing (template : Template) (data : Json) :
    (template.renderPausing data).run = template.render data := by
  rw [Template.renderPausing, Template.render]
  cases template.context data with
  | error e => rfl
  | ok context => rw [Task.run_andThen, run_renderNodesPausing]; rfl

/-! ## Executors -/

/-- The tasks of an executor after it has polled, one after the other, the tasks at the positions of a schedule. All
other tasks stay suspended meanwhile. -/
def polledBy {α : Type} (schedule : List Nat) (tasks : List (Task α)) : List (Task α) :=
  schedule.foldl (fun tasks position => tasks.modify position Task.poll) tasks

theorem getElem?_polledBy {α : Type} (schedule : List Nat) (tasks : List (Task α)) (i : Nat) :
    (polledBy schedule tasks)[i]? = tasks[i]?.map Task.poll^[schedule.count i] := by
  induction schedule generalizing tasks with
  | nil => simp [polledBy]
  | cons position schedule ih =>
    change (polledBy schedule (tasks.modify position Task.poll))[i]? = _
    rw [ih, List.getElem?_modify, List.count_cons]
    by_cases h : position = i
    · simp [h, Function.comp_def]
    · simp [h]

/-- Among any number of renders, polled in any order, each one ends once it was resumed after its last pause, and ends
with just the text or the error of the render that does not pause. -/
theorem polledBy_done_iff (renders : List (Template × Json)) (schedule : List Nat) (i : Fin renders.length)
    (result : Except Error String) :
    (polledBy schedule (renders.map fun r => r.1.renderPausing r.2))[(i : Nat)]? = some (.done result) ↔
      (renders[i].1.renderPausing renders[i].2).pauses ≤ schedule.count (i : Nat) ∧
        result = renders[i].1.render renders[i].2 := by
  rw [getElem?_polledBy, List.getElem?_map, List.getElem?_eq_getElem i.isLt, Option.map_some, Option.map_some,
    Option.some_inj, Task.poll_iterate_eq_done_iff, run_renderPausing]
  rfl

end TemplateQuery.Template
