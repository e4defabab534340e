import TemplateQuery.Pattern.Reader
import TemplateQuery.Proofs.Application
import TemplateQuery.Proofs.Dict
import TemplateQuery.Proofs.Query.Composition

/-!
# Loops inside loops

A loop over a query and, inside it, a loop over a second query that starts at the item of the first one come to the same
values as one loop over both paths joined, as long as the second path does not go back to its document: there the
document of the inner query is only the item.
-/
namespace TemplateQuery

theorem applyCompiled_of_run {query : Query.Compiled} {document extra : Json} {values : List Json}
    (hDocument : document.IsTraversable) (hRun : query.run document extra = .ok values) (policy : Policy) :
    applyCompiled policy query (.defined document) extra = .ok (.found values) := by
  rw [applyCompiled, hDocument.traversable_eq, ok_bind, runQuery, hRun]
  rfl

namespace Template

/-! ## Names -/

theorem RenderContext.resolve_bind (context : RenderContext) (name other : String) (value : Json) :
    (context.bind name value).resolve other = if name = other then some value else context.resolve other := by
  obtain ⟨globals, scopes⟩ := context
  cases scopes with
  | nil => by_cases h : name = other <;> simp [bind, resolve, Dict.get?, h]
  | cons scope outer => by_cases h : name = other <;> simp [bind, resolve, List.findSome?_cons, Dict.get?_put, h]

theorem RenderContext.globals_bind (context : RenderContext) (name : String) (value : Json) :
    (context.bind name value).globals = context.globals := by
  obtain ⟨globals, scopes⟩ := context
  cases scopes <;> rfl

/-- A variable of any other name than `forloop` holds the item of its loop. -/
theorem resolve_bindItem {name : String} (h : name ≠ "forloop") (item : Json) (index length : Nat)
    (context : RenderContext) : (bindItem name item index length context).resolve name = some item := by
  rw [bindItem, RenderContext.resolve_bind, if_neg h.symm, RenderContext.resolve_bind, if_pos rfl]

theorem globals_bindItem (name : String) (item : Json) (index length : Nat) (context : RenderContext) :
    (bindItem name item index length context).globals = context.globals := by
  rw [bindItem, RenderContext.globals_bind, RenderContext.globals_bind]

theorem evaluate_reference_of_resolve {context : RenderContext} {name : String} {value : Json}
    (h : context.resolve name = some value) : (Expression.reference name []).evaluate context = .defined value := by
  simp [Expression.evaluate, h, valueAt?]

/-! ## Items -/

/-- A loop over a query, without modifiers, iterates over the matches. -/
theorem LoopHeader.items_querying {query : Query.Compiled} {source : Expression} {context : RenderContext}
    {document : Json} {values : List Json} (hSource : source.evaluate context = .defined document)
    (hDocument : document.IsTraversable) (hRun : query.run document context.globals = .ok values) (policy : Policy)
    (name : String) (mode : UndefinedMode) :
    (querying policy query name source .initial).items mode context = .ok values := by
  have hTarget : (querying policy query name source .initial).target context = .ok (.defined (.array values)) := by
    simp only [target, querying, hSource, applyCompiled_of_run hDocument hRun policy]
    rfl
  rw [items, hTarget]
  cases mode <;> rfl

/-- Let a query join two others, of which the second one has no filter that goes back to the document. It succeeds on a
document if and only if the first query succeeds there and the second one succeeds on each of its matches, and its
matches are then those of the second query, match by match. A loop over the joined query has just these items; so have
the loops over the second query, one after the other, in the iterations of a loop over the first one, each of them over
the item of its iteration. -/
theorem joined_query_matches_nested_queries {joined first second : Query.Compiled} (hJoins : joined.Joins first second)
    (hAway : Query.EverywhereOn (Query.startsAt (· ≠ .document)) second.segments) (document extra : Json) :
    (∀ values, joined.run document extra = .ok values ↔
      ∃ outer inner, first.run document extra = .ok outer ∧
        List.Forall₂ (fun item found => second.run item extra = .ok found) outer inner ∧ values = inner.flatten) ∧
    ∀ values policy mode context source name innerName, joined.run document extra = .ok values →
      document.IsTraversable → source.evaluate context = .defined document → context.globals = extra →
      name ≠ "forloop" →
      (LoopHeader.querying policy joined innerName source .initial).items mode context = .ok values ∧
      ∃ outer inner, values = inner.flatten ∧
        (LoopHeader.querying policy first name source .initial).items mode context = .ok outer ∧
        List.Forall₂ (fun item found => item.IsTraversable → ∀ index iteration, iteration.globals = extra →
          (LoopHeader.querying policy second innerName (.reference name []) .initial).items mode
            (bindItem name item index outer.length iteration) = .ok found) outer inner := by
  refine ⟨hJoins.run_eq_ok_iff hAway document extra, ?_⟩
  rintro values policy mode context source name innerName hRun hDocument hSource rfl hName
  refine ⟨LoopHeader.items_querying hSource hDocument hRun policy innerName mode, ?_⟩
  obtain ⟨outer, inner, hOuter, hInner, rfl⟩ := (hJoins.run_eq_ok_iff hAway document _ values).1 hRun
  refine ⟨outer, inner, rfl, LoopHeader.items_querying hSource hDocument hOuter policy name mode, ?_⟩
  refine hInner.imp fun item found hFound hItem index iteration hGlobals => ?_
  have hReference := evaluate_reference_of_resolve (resolve_bindItem hName item index outer.length iteration)
  refine LoopHeader.items_querying hReference hItem ?_ policy innerName mode
  rw [globals_bindItem, hGlobals]
  exact hFound

def teams : Query.Compiled where
  source := "$.teams.*"
  segments := [.child "teams", .wildcard]
  functions := Query.standardFunctions

/-- The adults of every team, in one query. -/
def teamAdults : Query.Compiled where
  source := "$.teams.*.users[?@.age >= _.min].name"
  segments := teams.segments ++ adults.segments
  functions := Query.standardFunctions

def user (name : String) (age : Nat) : Json := .object [("name", .string name), ("age", .ofNat age)]

def club : Json :=
  .object [("teams", .object [("red", .object [("users", .array [user "Ada" 36, user "Tim" 9])]),
    ("blue", .object [("users", .array [user "Eve" 18])])])]

def clubContext : RenderContext where
  globals := .object [("min", .ofNat 18), ("club", club)]
  scopes := []

theorem joins_teamAdults : teamAdults.Joins teams adults := ⟨rfl, rfl, rfl⟩

theorem joined_query_matches_nested_queries_teamAdults :
    teamAdults.Joins teams adults ∧ Query.EverywhereOn (Query.startsAt (· ≠ .document)) adults.segments ∧
    teamAdults.run club clubContext.globals = .ok [.string "Ada", .string "Eve"] ∧
    (LoopHeader.querying .raise teamAdults "name" (.reference "club" []) .initial).items .strict clubContext =
      .ok [.string "Ada", .string "Eve"] ∧
    ∃ outer inner, [.string "Ada", .string "Eve"] = inner.flatten ∧
      (LoopHeader.querying .raise teams "team" (.reference "club" []) .initial).items .strict clubContext =
        .ok outer ∧
      List.Forall₂ (fun item found => item.IsTraversable → ∀ index iteration, iteration.globals = clubContext.globals →
        (LoopHeader.querying .raise adults "name" (.reference "team" []) .initial).items .strict
          (bindItem "team" item index outer.length iteration) = .ok found) outer inner := by
  have hAway : Query.EverywhereOn (Query.startsAt (· ≠ .document)) adults.segments := by
    simp [adults, Query.EverywhereOn, Query.Segment.Everywhere, Query.Expr.Everywhere, Query.startsAt,
      Query.Expr.StartsAt]
  have hRun : teamAdults.run club clubContext.globals = .ok [.string "Ada", .string "Eve"] := rfl
  obtain ⟨-, hLoops⟩ := joined_query_matches_nested_queries joins_teamAdults hAway club clubContext.globals
  refine ⟨joins_teamAdults, hAway, hRun, ?_⟩
  exact hLoops _ .raise .strict clubContext (.reference "club" []) "team" "name" hRun trivial rfl rfl (by decide)

end Template

end TemplateQuery
