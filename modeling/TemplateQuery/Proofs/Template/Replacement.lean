import TemplateQuery.Pattern.Reader
import TemplateQuery.Proofs.Dict
import TemplateQuery.Proofs.Template.Pausing
import TemplateQuery.Proofs.Template.Reading

/-!
# A query loop in place of the plain loop

Only a header with a pipe right after its source tells the two kinds of loop apart. A template without such headers is
read alike whichever of them it has, malformed headers included, and then there is nothing left to tell its renders
apart, since rendering never looks at the tags of the environment.
-/
namespace TemplateQuery.Template

/-! ## Headers -/

/-- The header of a loop has a pipe right after the source expression. -/
def PipesSource (header : String) : Prop :=
  ∃ name ts source rest, tokens header = .ok (.word name :: .word "in" :: ts) ∧
    readExpression ts = .ok (source, .pipe :: rest)

theorem eq_of_expectWord {ts rest : List Token} {name : String} (h : expectWord ts = .ok (name, rest)) :
    ts = .word name :: rest := by
  unfold expectWord at h
  split at h <;> cases h
  rfl

theorem eq_of_expectIn {ts rest : List Token} {name : String} (h : expectIn name ts = .ok rest) :
    ts = .word "in" :: rest := by
  unfold expectIn at h
  split at h
  · split at h <;> cases h
    simp [*]
  · cases h

/-- Only a pipe makes a tag read a query. -/
theorem readOptionalQuery_of_ne_pipe (tag : BlockTag) {ts : List Token} (h : ∀ rest, ts ≠ .pipe :: rest) :
    readOptionalQuery tag ts = .ok (none, ts) := by
  unfold readOptionalQuery
  split
  · exact absurd rfl (h _)
  · rfl

theorem LoopHeader.ofText_of_not_pipesSource (tag tag' : BlockTag) {header : String} (h : ¬PipesSource header) :
    LoopHeader.ofText tag header = LoopHeader.ofText tag' header := by
  refine bind_congr_of_ok fun ts hTokens => ?_
  refine bind_congr_of_ok ?_
  rintro ⟨name, afterName⟩ hName
  refine bind_congr_of_ok fun afterIn hIn => ?_
  refine bind_congr_of_ok ?_
  rintro ⟨source, rest⟩ hSource
  have hPipe : ∀ after, rest ≠ .pipe :: after := by
    rintro after rfl
    rw [eq_of_expectWord hName, eq_of_expectIn hIn] at hTokens
    exact h ⟨name, afterIn, source, after, hTokens, hSource⟩
  simp only [readOptionalQuery_of_ne_pipe _ hPipe]

/-! ## Renders -/

section Rendering

variable (env : Environment) (name : String) (tag : BlockTag)

theorem runCalls_withTag (context : RenderContext) (calls : List FilterCall) (value : Value) :
    runCalls (env.withTag name tag) context calls value = runCalls env context calls value := by
  induction calls generalizing value with
  | nil => rfl
  | cons call rest ih =>
    rw [runCalls, runCalls]
    exact bind_congr_of_ok fun next _ => ih next

theorem renderOutput_withTag (pipeline : Pipeline) (p : Progress) :
    renderOutput (env.withTag name tag) pipeline p = renderOutput env pipeline p := by
  rw [renderOutput, renderOutput, Pipeline.evaluate, Pipeline.evaluate, runCalls_withTag]
  rfl

mutual

theorem renderNodePausing_withTag : ∀ node,
    renderNodePausing (env.withTag name tag) node = renderNodePausing env node
  | .text _ => rfl
  | .output pipeline => by
    funext p
    rw [renderNodePausing, renderNodePausing, renderOutput_withTag]
  | .loop header body alternative => by
    funext p
    rw [renderNodePausing, renderNodePausing, renderNodesPausing_withTag body,
      renderAlternativePausing_withTag alternative]
    rfl
termination_by structural node => node

theorem renderAlternativePausing_withTag : ∀ nodes,
    renderAlternativePausing (env.withTag name tag) nodes = renderAlternativePausing env nodes
  | none => rfl
  | some nodes => renderNodesPausing_withTag nodes
termination_by structural nodes => nodes

/-- Rendering pauses, writes and fails alike whatever tag has been replaced in the environment. -/
theorem renderNodesPausing_withTag : ∀ nodes,
    renderNodesPausing (env.withTag name tag) nodes = renderNodesPausing env nodes
  | [] => rfl
  | node :: rest => by
    funext p
    rw [renderNodesPausing, renderNodesPausing, renderNodePausing_withTag node, renderNodesPausing_withTag rest]
termination_by structural nodes => nodes

end

end Rendering

end Template

/-- The same template, read already, with another tag in its environment. -/
def Template.withTag (name : String) (tag : Template.BlockTag) (template : Template) : Template :=
  { template with environment := template.environment.withTag name tag }

namespace Template

theorem renderPausing_withTag (name : String) (tag : BlockTag) (template : Template) (data : Json) :
    (template.withTag name tag).renderPausing data = template.renderPausing data := by
  simp only [renderPausing, Template.withTag, renderNodesPausing_withTag]
  rfl

theorem readsAlike_withTag {env : Environment} {name : String} {tag tag' : BlockTag} {ms : List Markup}
    (hTag : Dict.get? env.tags name = some tag)
    (hHeaders : ∀ header line, .tag name header line ∈ ms →
      LoopHeader.ofText tag header = LoopHeader.ofText tag' header) :
    ReadsAlike env (env.withTag name tag') ms := by
  intro other header line hMem
  rw [Environment.withTag, Dict.get?_put]
  by_cases h : name = other
  · subst h
    simp [hTag, hHeaders header line hMem]
  · simp [h]

/-- Let the plain loop of an environment be replaced by a query loop, and let no loop of a template have a pipe right
after its source. Then either reading the template fails with the same error in both environments, or it is read in
both, and whatever its globals and the data are, it gives the same text or the same error, with the same pauses if it
pauses. -/
theorem queryLoop_replaces_loop (env : Environment) (settings : QuerySettings) (source : String)
    (hFor : Dict.get? env.tags "for" = some .loop)
    (hSource : ∀ ms, scan source = .ok ms → ∀ header line, .tag "for" header line ∈ ms → ¬PipesSource header) :
    (∃ e, ∀ globals, Template.ofText env source globals = .error e ∧
      Template.ofText (env.withTag "for" (.queryLoop settings)) source globals = .error e) ∨
    ∀ globals, ∃ plain querying, Template.ofText env source globals = .ok plain ∧
      Template.ofText (env.withTag "for" (.queryLoop settings)) source globals = .ok querying ∧
      ∀ data, querying.render data = plain.render data ∧ querying.renderPausing data = plain.renderPausing data := by
  have hNodes : scan source >>= nodesOfMarkup env =
      scan source >>= nodesOfMarkup (env.withTag "for" (.queryLoop settings)) := by
    refine bind_congr_of_ok fun ms hScan => nodesOfMarkup_congr ?_
    exact readsAlike_withTag hFor fun header line hMem =>
      LoopHeader.ofText_of_not_pipesSource _ _ (hSource ms hScan header line hMem)
  simp only [ofText_eq_map, ← hNodes]
  cases scan source >>= nodesOfMarkup env with
  | error e => exact Or.inl ⟨e, fun globals => ⟨rfl, rfl⟩⟩
  | ok nodes =>
    refine Or.inr fun globals => ⟨⟨env, nodes, globals⟩, _, rfl, rfl, fun data => ?_⟩
    have hPausing := renderPausing_withTag "for" (.queryLoop settings) ⟨env, nodes, globals⟩ data
    refine ⟨?_, hPausing⟩
    rw [← run_renderPausing, ← run_renderPausing]
    exact congrArg Task.run hPausing

theorem not_pipesSource {header name : String} {ts rest : List Token} {source : Expression}
    (hTokens : tokens header = .ok (.word name :: .word "in" :: ts)) (hSource : readExpression ts = .ok (source, rest))
    (hRest : rest.head? ≠ some .pipe) : ¬PipesSource header := by
  rintro ⟨_, _, _, after, hTokens', hSource'⟩
  rw [hTokens] at hTokens'
  cases hTokens'
  rw [hSource] at hSource'
  cases hSource'
  exact hRest rfl

/-- A loop over the first two items of each row. -/
def nestedLoops : String :=
  "\x7b% for row in rows %\x7d\x7b% for x in row limit: 2 %\x7d\x7b\x7b x \x7d\x7d\x7b% endfor %\x7d\x7b% endfor %\x7d"

theorem scan_nestedLoops : scan nestedLoops = .ok [.tag "for" "row in rows" 1, .tag "for" "x in row limit: 2" 1,
    .output "x" 1, .tag "endfor" "" 1, .tag "endfor" "" 1] := rfl

theorem not_pipesSource_of_mem_nestedLoops {ms : List Markup} (hScan : scan nestedLoops = .ok ms) (header : String)
    (line : Nat) (hMem : .tag "for" header line ∈ ms) : ¬PipesSource header := by
  rw [scan_nestedLoops] at hScan
  cases hScan
  simp only [List.mem_cons, Markup.tag.injEq, reduceCtorEq, false_or, or_false, List.not_mem_nil] at hMem
  obtain ⟨-, rfl, -⟩ | ⟨-, rfl, -⟩ | ⟨h, -⟩ | ⟨h, -⟩ := hMem
  · exact not_pipesSource rfl rfl (by decide)
  · exact not_pipesSource rfl rfl (by decide)
  all_goals exact absurd h (by decide)

theorem queryLoop_replaces_loop_nestedLoops :
    Dict.get? Environment.standard.tags "for" = some .loop ∧
    (∀ ms, scan nestedLoops = .ok ms → ∀ header line, .tag "for" header line ∈ ms → ¬PipesSource header) ∧
    ∀ globals, ∃ plain querying, Template.ofText .standard nestedLoops globals = .ok plain ∧
      Template.ofText (Environment.standard.withTag "for" (.queryLoop (.standard .raise))) nestedLoops globals =
        .ok querying ∧
      ∀ data, querying.render data = plain.render data ∧ querying.renderPausing data = plain.renderPausing data := by
  have hSource := fun ms (hScan : scan nestedLoops = .ok ms) => not_pipesSource_of_mem_nestedLoops hScan
  refine ⟨rfl, hSource, ?_⟩
  obtain ⟨e, hError⟩ | hAlike := queryLoop_replaces_loop .standard (.standard .raise) nestedLoops rfl hSource
  · cases (hError []).1
  · exact hAlike

end Template

end TemplateQuery
