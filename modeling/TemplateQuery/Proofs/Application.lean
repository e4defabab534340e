import TemplateQuery.Pattern.Reader
import TemplateQuery.Proofs.Query.Reading
import TemplateQuery.Template.Loop

/-!
# One query, applied in two ways

A filter is given a path and compiles it when it is called; a loop has had its path compiled when the template was read.
Both look at the value first and compile or run the query after that, so for a path that compiles the two ways come to
the same matches and to the same failures, and each policy makes the same of them.
-/
namespace TemplateQuery

/-! ## Data that queries start from -/

/-- Queries start from arrays and objects. -/
def Json.IsTraversable : Json → Prop
  | .array _ => True
  | .object _ => True
  | _ => False

theorem Json.IsTraversable.traversable_eq {document : Json} (h : document.IsTraversable) (path : String) :
    traversable path (.defined document) = .ok document := by
  cases document with
  | array items => rfl
  | object members => rfl
  | _ => exact h.elim

/-! ## Paths and compiled queries -/

theorem compileQuery_eq_ok {functions : Query.FunctionTable} {path : String} {query : Query.Compiled}
    (h : Query.compile functions path = .ok query) : compileQuery functions path = .ok query := by
  rw [compileQuery, h]

/-- It makes no difference to a path that compiles whether it is compiled before or after the value is looked at. -/
theorem QuerySettings.apply_eq_applyCompiled {settings : QuerySettings} {path : String} {query : Query.Compiled}
    (h : Query.compile settings.functions path = .ok query) (value : Value) (extra : Json) :
    settings.apply value path extra = applyCompiled settings.policy query value extra := by
  obtain ⟨-, hSource, -⟩ := Query.compile_eq_ok h
  rw [apply, applyCompiled, hSource, compileQuery_eq_ok h]
  rfl

namespace Template

/-! ## Filters and loops -/

/-- The header of a loop, of a tag with a policy, over what the query finds in the source. -/
def LoopHeader.querying (policy : Policy) (query : Query.Compiled) (name : String) (source : Expression)
    (modifiers : Modifiers) : LoopHeader :=
  ⟨name, source, some ⟨query, policy⟩, modifiers⟩

variable {settings : QuerySettings} {path : String} {query : Query.Compiled}

theorem LoopHeader.ofTokens_querying (h : Query.compile settings.functions path = .ok query) {name : String}
    {ts rest : List Token} {source : Expression} {modifiers : Modifiers}
    (hSource : readExpression ts = .ok (source, .pipe :: .string path :: rest))
    (hModifiers : Modifiers.ofTokens rest = .ok modifiers) :
    LoopHeader.ofTokens (.queryLoop settings) (.word name :: .word "in" :: ts) =
      .ok (.querying settings.policy query name source modifiers) := by
  have hQuery : readOptionalQuery (.queryLoop settings) (.pipe :: .string path :: rest) =
      .ok (some ⟨query, settings.policy⟩, rest) := by
    rw [readOptionalQuery, readLoopQuery, h]
    rfl
  have hIn : expectIn name (.word "in" :: ts) = .ok ts := by rw [expectIn, if_pos rfl]
  simp only [ofTokens, expectWord, ok_bind, hIn, hSource, hQuery, hModifiers]
  rfl

/-- What the filter gives, as the target of a loop: the same value, or the same failure as another kind of error. -/
theorem LoopHeader.target_querying (h : Query.compile settings.functions path = .ok query) (name : String)
    (source : Expression) (modifiers : Modifiers) (context : RenderContext) :
    (∃ w, Filter.findIn settings (source.evaluate context) [.defined (.string path)] context.globals = .ok w ∧
      (LoopHeader.querying settings.policy query name source modifiers).target context = .ok w) ∨
    ∃ failure, Filter.findIn settings (source.evaluate context) [.defined (.string path)] context.globals =
        .error (.argument "find" (.query failure)) ∧
      (LoopHeader.querying settings.policy query name source modifiers).target context =
        .error (.type (.query failure)) := by
  have hApply := QuerySettings.apply_eq_applyCompiled h (source.evaluate context) context.globals
  simp only [Filter.findIn, Filter.pathArgument, target, querying, ok_bind, hApply]
  cases applyCompiled settings.policy query (source.evaluate context) context.globals with
  | ok applied => exact Or.inl ⟨applied.toValue, rfl, rfl⟩
  | error failure => exact Or.inr ⟨failure, rfl, rfl⟩

/-- For a path that compiles, the filter and the loop apply one query. Compiling the path first makes no difference to
any application of it, failures included; the path after a pipe becomes the query of the loop; and the items of the
loop are those of what the filter gives for the source, unless the filter fails: then the loop fails with a type error
for the same failure, in the same words. -/
theorem queryLoop_agrees_with_find {settings : QuerySettings} {path : String} {query : Query.Compiled}
    (h : Query.compile settings.functions path = .ok query) :
    (∀ value extra, settings.apply value path extra = applyCompiled settings.policy query value extra) ∧
    (∀ name ts source rest modifiers, readExpression ts = .ok (source, .pipe :: .string path :: rest) →
      Modifiers.ofTokens rest = .ok modifiers →
      LoopHeader.ofTokens (.queryLoop settings) (.word name :: .word "in" :: ts) =
        .ok (.querying settings.policy query name source modifiers)) ∧
    ∀ name source modifiers mode context,
      let found := (Filter.find settings).apply (source.evaluate context) [.defined (.string path)] context.globals
      let items := (LoopHeader.querying settings.policy query name source modifiers).items mode context
      (∀ w, found = .ok w → items = modifiers.itemsOf mode context w) ∧
      ∀ e, found = .error e → ∃ failure, e = .argument "find" (.query failure) ∧
        items = .error (.type (.query failure)) ∧
        (ArgumentProblem.query failure).text = (TypeProblem.query failure).text := by
  refine ⟨QuerySettings.apply_eq_applyCompiled h, fun _ _ _ _ _ => LoopHeader.ofTokens_querying h, ?_⟩
  intro name source modifiers mode context
  simp only [Filter.apply, LoopHeader.items]
  obtain ⟨w, hFound, hTarget⟩ | ⟨failure, hFound, hTarget⟩ :=
    LoopHeader.target_querying h name source modifiers context
  · rw [hFound, hTarget]
    refine ⟨?_, nofun⟩
    rintro _ ⟨rfl⟩
    rfl
  · rw [hFound, hTarget]
    refine ⟨nofun, ?_⟩
    rintro _ ⟨rfl⟩
    exact ⟨failure, rfl, rfl, rfl⟩

/-- The path to the names of the users who are old enough. -/
def adultsPath : String := "$.users[?@.age >= _.min].name"

def adults : Query.Compiled where
  source := adultsPath
  segments := [.child "users",
    .filter (.compare (.path .current [.child "age"]) .greaterEqual (.path .extra [.child "min"])), .child "name"]
  functions := Query.standardFunctions

def teamContext : RenderContext where
  globals := .object [("min", .ofNat 18), ("team", .object [("users", .array [
    .object [("name", .string "Ada"), ("age", .ofNat 36)], .object [("name", .string "Tim"), ("age", .ofNat 9)]])])]
  scopes := []

theorem queryLoop_agrees_with_find_adults :
    Query.compile (QuerySettings.standard .raise).functions adultsPath = .ok adults ∧
    LoopHeader.ofTokens (.queryLoop (.standard .raise))
        [.word "name", .word "in", .word "team", .pipe, .string adultsPath, .word "reversed"] =
      .ok (.querying .raise adults "name" (.reference "team" []) ⟨none, none, true⟩) ∧
    (LoopHeader.querying .raise adults "name" (.reference "team" []) ⟨none, none, true⟩).items .strict teamContext =
      Modifiers.itemsOf ⟨none, none, true⟩ .strict teamContext (.defined (.array [.string "Ada"])) ∧
    (LoopHeader.querying .raise adults "name" (.reference "min" []) .initial).items .strict teamContext =
      .error (.type (.query ⟨adultsPath, .wrongInput .number⟩)) := by
  have hCompile : Query.compile (QuerySettings.standard .raise).functions adultsPath = .ok adults := rfl
  obtain ⟨-, hRead, hItems⟩ := queryLoop_agrees_with_find hCompile
  refine ⟨hCompile, hRead "name" [.word "team", .pipe, .string adultsPath, .word "reversed"] _ _ _ rfl rfl, ?_, ?_⟩
  · exact (hItems "name" (.reference "team" []) ⟨none, none, true⟩ .strict teamContext).1 _ rfl
  · obtain ⟨failure, hFailure, hFails, -⟩ :=
      (hItems "name" (.reference "min" []) .initial .strict teamContext).2 _ rfl
    cases hFailure
    exact hFails

end Template

end TemplateQuery
