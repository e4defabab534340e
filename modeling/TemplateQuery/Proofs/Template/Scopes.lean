import Mathlib
import TemplateQuery.Proofs.Dict
import TemplateQuery.Template.Context

/-!
# Scopes as a stack

The scopes of a context change in three ways: one is opened inside the others, the innermost one is closed, or a name is
set in it. A scope is known by its level, which is the number of scopes that are open while it is the innermost one. It
stays open until fewer scopes are open than its level says. What a name stands for depends on the steps alone: it is what
the name was last set to in the innermost scope, among those still open, in which it was set.
-/
namespace TemplateQuery.Template

inductive ScopeStep where
  | push
  | pop
  | set (name : String) (value : Json)

namespace ScopeStep

def run (context : RenderContext) : ScopeStep → RenderContext
  | push => context.push
  | pop => context.pop
  | set name value => context.bind name value

/-- How many scopes are open after the step. Nothing is closed if none is open, and a name that is set opens one then. -/
def level (before : Nat) : ScopeStep → Nat
  | push => before + 1
  | pop => before - 1
  | set _ _ => max before 1

def pushes : ScopeStep → Nat
  | push => 1
  | _ => 0

def pops : ScopeStep → Nat
  | pop => 1
  | _ => 0

end ScopeStep

def RenderContext.runSteps (context : RenderContext) (steps : List ScopeStep) : RenderContext :=
  steps.foldl ScopeStep.run context

/-! ## Balanced steps -/

def pushes (steps : List ScopeStep) : Nat := (steps.map ScopeStep.pushes).sum

def pops (steps : List ScopeStep) : Nat := (steps.map ScopeStep.pops).sum

/-- Pops never outnumber pushes, and in the end there are as many of both. -/
structure BalancedSteps (steps : List ScopeStep) : Prop where
  before : ∀ done, done <+: steps → pops done ≤ pushes done
  final : pops steps = pushes steps

section Balanced

variable {inner : List (Dict Json)} (outer : List (Dict Json))

/-- A step inside of some scopes leaves those outside alone. -/
theorem run_inner (h : inner ≠ []) (step : ScopeStep) (globals : Json) :
    ∃ inner', step.run ⟨globals, inner ++ outer⟩ = ⟨globals, inner' ++ outer⟩ ∧
      inner'.length + step.pops = inner.length + step.pushes := by
  obtain ⟨scope, inner, rfl⟩ := List.exists_cons_of_ne_nil h
  cases step with
  | push => exact ⟨[] :: scope :: inner, rfl, rfl⟩
  | pop => exact ⟨inner, rfl, rfl⟩
  | set name value => exact ⟨scope.put name value :: inner, rfl, rfl⟩

theorem runSteps_inner {steps : List ScopeStep} (h : ∀ done, done <+: steps → pops done < inner.length + pushes done)
    (globals : Json) :
    ∃ inner', RenderContext.runSteps ⟨globals, inner ++ outer⟩ steps = ⟨globals, inner' ++ outer⟩ ∧
      inner'.length + pops steps = inner.length + pushes steps := by
  induction steps generalizing inner with
  | nil => exact ⟨inner, rfl, rfl⟩
  | cons step steps ih =>
    have hOpen : inner ≠ [] := List.ne_nil_of_length_pos (h [] List.nil_prefix)
    obtain ⟨between, hStep, hBetween⟩ := run_inner outer hOpen step globals
    have hRest : ∀ done, done <+: steps → pops done < between.length + pushes done := by
      intro done hDone
      have hCount := h (step :: done) (List.cons_prefix_cons.2 ⟨rfl, hDone⟩)
      simp only [pops, pushes, List.map_cons, List.sum_cons] at hCount ⊢
      omega
    obtain ⟨inner', hRun, hLength⟩ := ih hRest
    refine ⟨inner', ?_, ?_⟩
    · rw [RenderContext.runSteps, List.foldl_cons, hStep]
      exact hRun
    · simp only [pops, pushes, List.map_cons, List.sum_cons] at hLength ⊢
      omega

theorem runSteps_balanced {steps : List ScopeStep} (h : BalancedSteps steps) (context : RenderContext) :
    (context.push.runSteps steps).pop = context := by
  obtain ⟨globals, scopes⟩ := context
  have hInner : ∀ done, done <+: steps → pops done < [([] : Dict Json)].length + pushes done := by
    intro done hDone
    have hCount := h.before done hDone
    simp only [List.length_singleton]
    omega
  obtain ⟨inner, hRun, hLength⟩ := runSteps_inner scopes hInner globals
  have hOne : inner.length = 1 := by
    have hFinal := h.final
    simp only [List.length_singleton] at hLength
    omega
  obtain ⟨scope, rfl⟩ := List.length_eq_one_iff.1 hOne
  have hPush : RenderContext.push ⟨globals, scopes⟩ = ⟨globals, [[]] ++ scopes⟩ := rfl
  rw [hPush, hRun]
  rfl

end Balanced

/-! ## Levels -/

/-- How many scopes are open after the steps if so many are open before them. -/
def levelAfter (before : Nat) (steps : List ScopeStep) : Nat := steps.foldl ScopeStep.level before

/-- The scope of a level has the value under the name. -/
def HoldsAt : List (Dict Json) → (level : Nat) → (name : String) → (value : Json) → Prop
  | [], _, _, _ => False
  | scope :: outer, level, name, value =>
    level = outer.length + 1 ∧ scope.get? name = some value ∨ HoldsAt outer level name value

/-- While the steps are made, starting with so many open scopes, the scope of a level stays open and the name is not set
in it. -/
def Untouched (level : Nat) (name : String) (before : Nat) (steps : List ScopeStep) : Prop :=
  ∀ done, done <+: steps → level ≤ levelAfter before done ∧
    ∀ value, done ++ [.set name value] <+: steps → levelAfter before done ≠ level

/-- The scope of a level is open after the steps, and the name was last set to the value in it: by one of the steps or,
in a scope that was open before them, earlier. -/
def HoldsAfter (context : RenderContext) (steps : List ScopeStep) (level : Nat) (name : String) (value : Json) : Prop :=
  (∃ before after, steps = before ++ .set name value :: after ∧
    levelAfter context.scopes.length (before ++ [.set name value]) = level ∧ Untouched level name level after) ∨
  HoldsAt context.scopes level name value ∧ Untouched level name context.scopes.length steps

section Levels

variable {context : RenderContext} {steps : List ScopeStep} {level : Nat} {name : String} {value : Json}

theorem levelAfter_append (before : Nat) (steps more : List ScopeStep) :
    levelAfter before (steps ++ more) = levelAfter (levelAfter before steps) more := List.foldl_append

/-- Behind a step that sets a name, levels count from the one that it was set in. -/
theorem levelAfter_of_set {start : Nat} {before : List ScopeStep}
    (hLevel : levelAfter start (before ++ [.set name value]) = level) (more : List ScopeStep) :
    levelAfter start (before ++ .set name value :: more) = levelAfter level more := by
  rw [← hLevel, ← levelAfter_append, List.append_assoc, List.singleton_append]

theorem runSteps_concat (context : RenderContext) (steps : List ScopeStep) (step : ScopeStep) :
    context.runSteps (steps ++ [step]) = step.run (context.runSteps steps) := List.foldl_concat ..

theorem globals_runSteps (context : RenderContext) (steps : List ScopeStep) :
    (context.runSteps steps).globals = context.globals := by
  induction steps using List.reverseRecOn with
  | nil => rfl
  | append_singleton steps step ih =>
    rw [runSteps_concat, ← ih]
    cases step with
    | push | pop => rfl
    | set name value =>
      rw [ScopeStep.run, RenderContext.bind]
      split <;> rfl

theorem length_scopes_run (step : ScopeStep) (context : RenderContext) :
    (step.run context).scopes.length = step.level context.scopes.length := by
  obtain ⟨globals, scopes⟩ := context
  cases step with
  | push => rfl
  | pop => simp [ScopeStep.run, ScopeStep.level, RenderContext.pop]
  | set name value => cases scopes <;> simp [ScopeStep.run, ScopeStep.level, RenderContext.bind]

theorem length_scopes_runSteps (context : RenderContext) (steps : List ScopeStep) :
    (context.runSteps steps).scopes.length = levelAfter context.scopes.length steps := by
  induction steps using List.reverseRecOn with
  | nil => rfl
  | append_singleton steps step ih =>
    rw [runSteps_concat, length_scopes_run, ih, levelAfter_append]
    rfl

theorem HoldsAt.level_le {scopes : List (Dict Json)} (h : HoldsAt scopes level name value) :
    level ≤ scopes.length := by
  induction scopes with
  | nil => exact h.elim
  | cons scope outer ih =>
    rw [List.length_cons]
    rcases h with ⟨rfl, -⟩ | h
    · exact Nat.le_refl _
    · exact Nat.le_succ_of_le (ih h)

theorem untouched_nil (before : Nat) : Untouched level name before [] ↔ level ≤ before := by
  simp [Untouched, levelAfter]

theorem untouched_concat (before : Nat) (steps : List ScopeStep) (step : ScopeStep) :
    Untouched level name before (steps ++ [step]) ↔
      Untouched level name before steps ∧ level ≤ levelAfter before (steps ++ [step]) ∧
        ∀ value, step = .set name value → levelAfter before steps ≠ level := by
  constructor
  · intro h
    refine ⟨fun done hDone => ?_, ?_, ?_⟩
    · have hAll := h done (hDone.trans (List.prefix_append ..))
      exact ⟨hAll.1, fun value hSet => hAll.2 value (hSet.trans (List.prefix_append ..))⟩
    · exact (h _ List.prefix_rfl).1
    · rintro value rfl
      exact (h steps (List.prefix_append ..)).2 value List.prefix_rfl
  · rintro ⟨hSteps, hLevel, hSet⟩ done hDone
    rcases List.prefix_concat_iff.1 hDone with rfl | hDone
    · refine ⟨hLevel, fun value hPrefix => ?_⟩
      have hLength := hPrefix.length_le
      simp at hLength
    · refine ⟨(hSteps done hDone).1, fun value hPrefix => ?_⟩
      rcases List.prefix_concat_iff.1 hPrefix with hEq | hPrefix
      · obtain ⟨rfl, hStep⟩ := List.append_inj' hEq rfl
        exact hSet value (by simpa using hStep.symm)
      · exact (hSteps done hDone).2 value hPrefix

/-- What one more step changes in what the scopes hold. -/
theorem holdsAfter_concat (step : ScopeStep) :
    HoldsAfter context (steps ++ [step]) level name value ↔
      (step = .set name value ∧ levelAfter context.scopes.length (steps ++ [step]) = level) ∨
      HoldsAfter context steps level name value ∧ level ≤ levelAfter context.scopes.length (steps ++ [step]) ∧
        ∀ other, step = .set name other → levelAfter context.scopes.length steps ≠ level := by
  constructor
  · rintro (⟨before, after, hSteps, hLevel, hAfter⟩ | ⟨hHolds, hAll⟩)
    · rcases List.eq_nil_or_concat after with rfl | ⟨after, last, rfl⟩
      · obtain ⟨rfl, hStep⟩ := List.append_inj' hSteps rfl
        obtain rfl : step = .set name value := by simpa using hStep
        exact .inl ⟨rfl, hLevel⟩
      · rw [List.concat_eq_append, ← List.cons_append, ← List.append_assoc] at hSteps
        obtain ⟨rfl, hLast⟩ := List.append_inj' hSteps rfl
        obtain rfl : step = last := by simpa using hLast
        rw [List.concat_eq_append, untouched_concat] at hAfter
        refine .inr ⟨.inl ⟨before, after, rfl, hLevel, hAfter.1⟩, ?_⟩
        rw [List.append_assoc, List.cons_append, levelAfter_of_set hLevel, levelAfter_of_set hLevel]
        exact hAfter.2
    · rw [untouched_concat] at hAll
      exact .inr ⟨.inr ⟨hHolds, hAll.1⟩, hAll.2⟩
  · rintro (⟨rfl, hLevel⟩ | ⟨⟨before, after, rfl, hLevel, hAfter⟩ | ⟨hHolds, hAll⟩, hNow⟩)
    · refine .inl ⟨steps, [], rfl, hLevel, ?_⟩
      rw [untouched_nil]
    · rw [List.append_assoc, List.cons_append, levelAfter_of_set hLevel, levelAfter_of_set hLevel] at hNow
      refine .inl ⟨before, after ++ [step], by simp, hLevel, ?_⟩
      rw [untouched_concat]
      exact ⟨hAfter, hNow⟩
    · refine .inr ⟨hHolds, ?_⟩
      rw [untouched_concat]
      exact ⟨hAll, hNow⟩

/-- What a step changes in the scopes themselves. -/
theorem holdsAt_run (step : ScopeStep) (context : RenderContext) :
    HoldsAt (step.run context).scopes level name value ↔
      (step = .set name value ∧ step.level context.scopes.length = level) ∨
      HoldsAt context.scopes level name value ∧ level ≤ step.level context.scopes.length ∧
        ∀ other, step = .set name other → context.scopes.length ≠ level := by
  obtain ⟨globals, scopes⟩ := context
  have hBound (outer : List (Dict Json)) (h : HoldsAt outer level name value) : level ≤ outer.length := h.level_le
  cases step with
  | push =>
    have hScopes := hBound scopes
    simp only [ScopeStep.run, RenderContext.push, HoldsAt, Dict.get?, ScopeStep.level]
    grind
  | pop =>
    cases scopes with
    | nil => simp [ScopeStep.run, RenderContext.pop, HoldsAt]
    | cons scope outer =>
      have hOuter := hBound outer
      simp only [ScopeStep.run, RenderContext.pop, List.tail_cons, HoldsAt, ScopeStep.level, List.length_cons]
      grind
  | set other value' =>
    cases scopes with
    | nil =>
      simp only [ScopeStep.run, RenderContext.bind, HoldsAt, Dict.get?, ScopeStep.level]
      grind
    | cons scope outer =>
      have hOuter := hBound outer
      simp only [ScopeStep.run, RenderContext.bind, HoldsAt, Dict.get?_put, ScopeStep.level, List.length_cons]
      grind

theorem holdsAfter_iff :
    HoldsAfter context steps level name value ↔ HoldsAt (context.runSteps steps).scopes level name value := by
  induction steps using List.reverseRecOn generalizing value with
  | nil =>
    have hBound (h : HoldsAt context.scopes level name value) : level ≤ context.scopes.length := h.level_le
    simpa [HoldsAfter, untouched_nil, RenderContext.runSteps] using hBound
  | append_singleton steps step ih =>
    have hLevel : levelAfter context.scopes.length (steps ++ [step]) =
        step.level (context.runSteps steps).scopes.length := by
      rw [levelAfter_append, length_scopes_runSteps]
      rfl
    rw [holdsAfter_concat, ih, runSteps_concat, holdsAt_run, hLevel, length_scopes_runSteps]

/-- A name stands for what the innermost scope that has it holds, else for a member of the globals. -/
theorem resolve_eq_some_iff (context : RenderContext) (name : String) (value : Json) :
    context.resolve name = some value ↔
      (∃ level, HoldsAt context.scopes level name value ∧
        ∀ inner other, level < inner → ¬HoldsAt context.scopes inner name other) ∨
      (∀ level other, ¬HoldsAt context.scopes level name other) ∧ context.globals.get? name = some value := by
  obtain ⟨globals, scopes⟩ := context
  induction scopes with
  | nil => simp [RenderContext.resolve, HoldsAt]
  | cons scope outer ih =>
    have hBound (level : Nat) (other : Json) (h : HoldsAt outer level name other) : level ≤ outer.length := h.level_le
    cases hScope : scope.get? name with
    | some found =>
      simp only [RenderContext.resolve, List.findSome?_cons, hScope, HoldsAt]
      constructor
      · intro h
        refine .inl ⟨outer.length + 1, .inl ⟨rfl, h⟩, fun inner other hLess => ?_⟩
        rintro (⟨rfl, -⟩ | hOuter)
        · omega
        · have hLevel := hBound inner other hOuter
          omega
      · rintro (⟨level, hHolds | hOuter, hInnermost⟩ | ⟨hNone, -⟩)
        · exact hHolds.2
        · have hLevel := hBound level value hOuter
          exact absurd (.inl ⟨rfl, rfl⟩) (hInnermost (outer.length + 1) found (by omega))
        · exact absurd (.inl ⟨rfl, rfl⟩) (hNone (outer.length + 1) found)
    | none =>
      simp only [RenderContext.resolve, List.findSome?_cons, hScope, HoldsAt] at ih ⊢
      simpa using ih

end Levels

/-- Whatever is pushed, popped and set, the globals stay as they are, and a name stands for the value that it was last set
to in the innermost of the open scopes that have it, else for the member of the globals with that name, else for
nothing. Steps in which pops never outnumber pushes, and match them at the end, leave every name as it was if a scope is
opened before them and closed after them. -/
theorem scopes_form_a_stack (context : RenderContext) (steps : List ScopeStep) :
    (BalancedSteps steps →
      (context.push.runSteps steps).pop = context ∧
        ∀ name, (context.push.runSteps steps).pop.resolve name = context.resolve name) ∧
    (context.runSteps steps).globals = context.globals ∧
    ∀ name value, (context.runSteps steps).resolve name = some value ↔
      (∃ level, HoldsAfter context steps level name value ∧
        ∀ inner other, level < inner → ¬HoldsAfter context steps inner name other) ∨
      (∀ level other, ¬HoldsAfter context steps level name other) ∧ context.globals.get? name = some value := by
  refine ⟨fun h => ?_, globals_runSteps context steps, fun name value => ?_⟩
  · have hContext := runSteps_balanced h context
    exact ⟨hContext, fun name => by rw [hContext]⟩
  · simp only [holdsAfter_iff]
    rw [resolve_eq_some_iff, globals_runSteps]

/-- A name is set in a scope that a pop closes, and then in the one below it. -/
def closing : List ScopeStep := [.set "x" (.ofNat 1), .push, .set "x" (.ofNat 2), .pop, .set "y" (.ofNat 3)]

theorem scopes_form_a_stack_closing :
    BalancedSteps closing ∧
    ((RenderContext.ofGlobals (.object [("x", .null)])).push.runSteps closing).pop.resolve "x" = some .null ∧
    ((RenderContext.ofGlobals (.object [("x", .null)])).runSteps (.pop :: closing)).resolve "x" = some (.ofNat 1) := by
  have hBalanced : BalancedSteps closing := by
    refine ⟨fun done hDone => ?_, rfl⟩
    rw [← List.mem_inits] at hDone
    revert done
    decide
  exact ⟨hBalanced, ((scopes_form_a_stack _ closing).1 hBalanced).2 "x", rfl⟩

end TemplateQuery.Template
