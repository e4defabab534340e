import TemplateQuery.Proofs.Template.Frame

/-!
# The iterations of a loop

All iterations of a loop share one scope, and each puts its item and its position in place of those of the one before. A
body leaves that scope alone, so an iteration sees nothing of the earlier ones: it renders as it would by itself, in the
context around the loop with the item and the position. A loop writes what its iterations write, in order, up to and with
the first that fails, and ends as that one does.
-/
namespace TemplateQuery.Template

/-- The context inside one more scope. -/
def RenderContext.within (context : RenderContext) (scope : Dict Json) : RenderContext :=
  { context with scopes := scope :: context.scopes }

/-- The members of `forloop` at an index of a loop over `length` items. They are integers here, so that a difference below
zero would show. -/
def loopPosition (index length : Int) : Dict Json :=
  [("index", .ofInt (index + 1)),
    ("index0", .ofInt index),
    ("rindex", .ofInt (length - index)),
    ("rindex0", .ofInt (length - index - 1)),
    ("first", .bool (index = 0)),
    ("last", .bool (index + 1 = length)),
    ("length", .ofInt length)]

/-- What an iteration adds to the names that are known around the loop. -/
def iterationScope (name : String) (item : Json) (index length : Nat) : Dict Json :=
  [(name, item), ("forloop", .object (loopPosition index length))]

/-- The iterations of a loop, each of them by itself on an empty page. -/
def iterations (name : String) (body : Progress → Outcome) (items : List Json) (context : RenderContext) : List Outcome :=
  items.zipIdx.map fun (item, index) => body ⟨context.within (iterationScope name item index items.length), ""⟩

/-- Of some outcomes in a row, those up to and with the first failure, and how that one ended. -/
inductive StopsAfter : List Outcome → List Outcome → Except Error Unit → Prop where
  | last {outcomes : List Outcome} (hAll : ∀ o ∈ outcomes, o.2 = .ok ()) : StopsAfter outcomes outcomes (.ok ())
  | failure (done later : List Outcome) {failed : Outcome} {e : Error}
    (hDone : ∀ o ∈ done, o.2 = .ok ()) (hFailed : failed.2 = .error e) :
    StopsAfter (done ++ failed :: later) (done ++ [failed]) (.error e)

theorem StopsAfter.cons {first : Outcome} {outcomes done : List Outcome} {result : Except Error Unit}
    (hFirst : first.2 = .ok ()) (h : StopsAfter outcomes done result) :
    StopsAfter (first :: outcomes) (first :: done) result := by
  cases h with
  | last hAll => exact .last (List.forall_mem_cons.2 ⟨hFirst, hAll⟩)
  | failure done later hDone hFailed =>
    exact .failure (first :: done) later (List.forall_mem_cons.2 ⟨hFirst, hDone⟩) hFailed

/-! ## The shared scope -/

theorem loopState_eq {index length : Nat} (h : index < length) :
    loopState index length = .object (loopPosition index length) := by
  have hLeft : ((length - index : Nat) : Int) = length - index := by omega
  have hAfter : ((length - index - 1 : Nat) : Int) = length - index - 1 := by omega
  have hFirst : (index == 0) = decide ((index : Int) = 0) := by
    rw [Bool.eq_iff_iff]
    simp only [beq_iff_eq, decide_eq_true_eq]
    omega
  have hLast : (index + 1 == length) = decide ((index : Int) + 1 = length) := by
    rw [Bool.eq_iff_iff]
    simp only [beq_iff_eq, decide_eq_true_eq]
    omega
  simp only [loopState, loopPosition, Json.ofNat, Json.ofInt, hLeft, hAfter, hFirst, hLast, Int.natCast_add,
    Int.natCast_one]

/-- The scope of a loop when an iteration begins: empty, or as the iteration before has left it. -/
def LoopScope (name : String) (scope : Dict Json) : Prop :=
  scope = [] ∨ ∃ item position, scope = [(name, item), ("forloop", position)]

section Loop

variable {name : String} {body : Progress → Outcome} {context : RenderContext}

theorem bindItem_within (hName : name ≠ "forloop") {scope : Dict Json} (hScope : LoopScope name scope) (item : Json)
    {index length : Nat} (h : index < length) :
    bindItem name item index length (context.within scope) =
      context.within (iterationScope name item index length) := by
  rw [iterationScope, ← loopState_eq h]
  rcases hScope with rfl | ⟨item', position, rfl⟩ <;>
    simp [bindItem, RenderContext.bind, RenderContext.within, Dict.put, hName]

/-! ## Runs -/

/-- What a step does is known from what it does on an empty page. -/
theorem Frames.eq_append (h : Frames body) (context : RenderContext) (before : String) :
    body ⟨context, before⟩ =
      (⟨context, before ++ (body ⟨context, ""⟩).1.output⟩, (body ⟨context, ""⟩).2) := by
  obtain ⟨added, result, hBody⟩ := h context
  simp [hBody]

/-- From any iteration on, a loop writes what the iterations left write by themselves, up to the first failure. -/
theorem renderEach_within (hBody : Frames body) (hName : name ≠ "forloop") (context : RenderContext) (length index : Nat)
    (items : List Json) (hLength : index + items.length = length) {scope : Dict Json} (hScope : LoopScope name scope)
    (before : String) :
    ∃ inner done result,
      StopsAfter ((items.zipIdx index).map fun (item, i) =>
        body ⟨context.within (iterationScope name item i length), ""⟩) done result ∧
      renderEach name length body index items ⟨context.within scope, before⟩ =
        (⟨context.within inner, before ++ String.join (done.map (·.1.output))⟩, result) := by
  induction items generalizing index scope before with
  | nil => exact ⟨scope, [], .ok (), .last (List.forall_mem_nil _), by simp [renderEach, Progress.succeed]⟩
  | cons item rest ih =>
    rw [List.length_cons] at hLength
    let bound := iterationScope name item index length
    -- Whatever the iteration before has left in the scope, this one begins with its own item and position.
    have hNow : renderEach name length body index (item :: rest) ⟨context.within scope, before⟩ =
        (body ⟨context.within bound, before⟩).andThen (renderEach name length body (index + 1) rest) := by
      rw [← bindItem_within hName hScope item (by omega)]
      rfl
    rw [hNow, hBody.eq_append, List.zipIdx_cons, List.map_cons]
    cases hResult : (body ⟨context.within bound, ""⟩).2 with
    | error e =>
      exact ⟨bound, [_], .error e, .failure [] _ (List.forall_mem_nil _) hResult,
        by simp [Outcome.andThen, bound]⟩
    | ok _ =>
      have hBound : LoopScope name bound := .inr ⟨_, _, rfl⟩
      obtain ⟨inner, done, result, hStops, hLater⟩ :=
        ih (index + 1) (by omega) hBound (before ++ (body ⟨context.within bound, ""⟩).1.output)
      refine ⟨inner, _ :: done, result, hStops.cons hResult, ?_⟩
      simp only [Outcome.andThen, hLater, List.map_cons, String.join_cons, String.append_assoc]
      rfl

end Loop

/-- A loop whose variable is not called `forloop` renders its iterations one after the other. Each of them is the body in
the context around the loop with one more scope, which holds the item and its position and nothing else; no member of the
position is cut off at zero. What the iterations write is added to the page in order; the first that fails is the last, and
its error is that of the loop. Only a loop without items renders its alternative, in the context around it. -/
theorem loop_renders_its_iterations (env : Environment) {name : String} (hName : name ≠ "forloop") (body : List Node)
    (alternative : Option (List Node)) (items : List Json) (context : RenderContext) (before : String) :
    (items = [] →
      renderItems name items (renderNodes env body) (renderAlternative env alternative) ⟨context, before⟩ =
        renderAlternative env alternative ⟨context, before⟩) ∧
    (items ≠ [] →
      ∃ done result, StopsAfter (iterations name (renderNodes env body) items context) done result ∧
        renderItems name items (renderNodes env body) (renderAlternative env alternative) ⟨context, before⟩ =
          (⟨context, before ++ String.join (done.map (·.1.output))⟩, result)) ∧
    ∀ index < items.length, loopState index items.length = .object (loopPosition index items.length) := by
  refine ⟨?_, fun hItems => ?_, fun index hIndex => loopState_eq hIndex⟩
  · rintro rfl
    rfl
  · obtain ⟨inner, done, result, hStops, hEach⟩ := renderEach_within (frames_renderNodes env body) hName
      context items.length 0 items (Nat.zero_add _) (.inl rfl) before
    refine ⟨done, result, hStops, ?_⟩
    cases items with
    | nil => exact absurd rfl hItems
    | cons item rest =>
      change (renderEach name _ _ 0 _ ⟨context.within [], before⟩).closeScope = _
      rw [hEach]
      rfl

/-- Writes each row and how many rows are left. -/
def countdown : List Node :=
  [.output ⟨.reference "row" [], []⟩, .text ":", .output ⟨.reference "forloop" [.key "rindex0"], []⟩, .text " "]

theorem loop_renders_its_iterations_countdown :
    "row" ≠ "forloop" ∧ [Json.ofNat 7, .ofNat 9] ≠ [] ∧
    (∃ done result,
      StopsAfter (iterations "row" (renderNodes .standard countdown) [.ofNat 7, .ofNat 9] (.ofGlobals (.object []))) done
        result ∧
      renderItems "row" [.ofNat 7, .ofNat 9] (renderNodes .standard countdown) (renderAlternative .standard none)
          ⟨.ofGlobals (.object []), "rows "⟩ =
        (⟨.ofGlobals (.object []), "rows " ++ String.join (done.map (·.1.output))⟩, result)) ∧
    renderItems "row" [.ofNat 7, .ofNat 9] (renderNodes .standard countdown) (renderAlternative .standard none)
        ⟨.ofGlobals (.object []), "rows "⟩ =
      (⟨.ofGlobals (.object []), "rows 7:1 9:0 "⟩, .ok ()) := by
  have hName : "row" ≠ "forloop" := by decide
  have hItems : [Json.ofNat 7, .ofNat 9] ≠ [] := List.cons_ne_nil _ _
  exact ⟨hName, hItems, (loop_renders_its_iterations .standard hName countdown none _ _ "rows ").2.1 hItems, rfl⟩

end TemplateQuery.Template
