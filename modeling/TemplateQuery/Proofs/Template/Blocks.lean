import Mathlib.Computability.Language
import TemplateQuery.Proofs.Steps
import TemplateQuery.Template.Node

/-!
# Blocks

A template is a sequence of texts, output statements and blocks. A block opens with a tag, holds a template, perhaps an
`else` and another template, and closes with its end tag. The reader of blocks accepts just these sequences, and writing
the tree that it builds from left to right gives back the markup that it was given.
-/
namespace TemplateQuery.Template

def Environment.Knows (env : Environment) (name : String) : Prop := ∃ tag, Dict.get? env.tags name = some tag

theorem eq_ok_of_atLine {α : Type} {line : Nat} {x : Checked α} {a : α} (h : atLine line x = .ok a) : x = .ok a := by
  cases x <;> cases h
  rfl

theorem endName_ne_else (name : String) : endName name ≠ "else" := by
  intro h
  have hChars := congrArg String.toList h
  simp [endName] at hChars

/-! ## Markup and nodes -/

/-- The markup reads as the nodes, at the top of a template or inside a block that a tag of the given name closes. A
closing tag of that name stops there even if it is registered, so no block opens with it. -/
inductive ReadsAs (env : Environment) : Option String → List Markup → List Node → Prop where
  | nil (closing : Option String) : ReadsAs env closing [] []
  | text {closing : Option String} {rest : List Markup} {nodes : List Node} (content : String)
    (hRest : ReadsAs env closing rest nodes) : ReadsAs env closing (.text content :: rest) (.text content :: nodes)
  | output {closing : Option String} {source : String} {pipeline : Pipeline} {rest : List Markup} {nodes : List Node}
    (line : Nat) (hPipeline : Pipeline.ofText source = .ok pipeline) (hRest : ReadsAs env closing rest nodes) :
    ReadsAs env closing (.output source line :: rest) (.output pipeline :: nodes)
  | loop {closing : Option String} {name header endHeader : String} {line endLine : Nat} {tag : BlockTag}
    {loopHeader : LoopHeader} {inside rest : List Markup} {body nodes : List Node}
    (hOpens : ¬(name = "else" ∨ some name = closing)) (hTag : Dict.get? env.tags name = some tag)
    (hHeader : LoopHeader.ofText tag header = .ok loopHeader) (hBody : ReadsAs env (some (endName name)) inside body)
    (hRest : ReadsAs env closing rest nodes) :
    ReadsAs env closing (.tag name header line :: (inside ++ .tag (endName name) endHeader endLine :: rest))
      (.loop loopHeader body none :: nodes)
  | loopElse {closing : Option String} {name header elseHeader endHeader : String} {line elseLine endLine : Nat}
    {tag : BlockTag} {loopHeader : LoopHeader} {inside other rest : List Markup} {body alternative nodes : List Node}
    (hOpens : ¬(name = "else" ∨ some name = closing)) (hTag : Dict.get? env.tags name = some tag)
    (hHeader : LoopHeader.ofText tag header = .ok loopHeader) (hBody : ReadsAs env (some (endName name)) inside body)
    (hAlternative : ReadsAs env (some (endName name)) other alternative) (hRest : ReadsAs env closing rest nodes) :
    ReadsAs env closing
      (.tag name header line :: (inside ++ .tag "else" elseHeader elseLine ::
        (other ++ .tag (endName name) endHeader endLine :: rest)))
      (.loop loopHeader body (some alternative) :: nodes)

/-- Where a block stops: at the end of the markup, or at an `else` or the closing tag with some markup after it. -/
inductive Stops (closing : Option String) : Option Stop → List Markup → List Markup → Prop where
  | ended : Stops closing none [] []
  | stopped {name : String} (header : String) (line : Nat) (rest : List Markup)
    (hStop : name = "else" ∨ some name = closing) :
    Stops closing (some ⟨name, line⟩) (.tag name header line :: rest) rest

theorem stops_else (closing : Option String) (header : String) (line : Nat) (rest : List Markup) :
    Stops closing (some ⟨"else", line⟩) (.tag "else" header line :: rest) rest :=
  .stopped header line rest (.inl rfl)

theorem stops_endTag (name header : String) (line : Nat) (rest : List Markup) :
    Stops (some (endName name)) (some ⟨endName name, line⟩) (.tag (endName name) header line :: rest) rest :=
  .stopped header line rest (.inr rfl)

/-- The markup between the tags of a block reads as a body and perhaps an alternative. -/
inductive ReadsInside (env : Environment) (name : String) :
    List Markup → List Node → Option (List Node) → Prop where
  | body {inside : List Markup} {body : List Node} (hBody : ReadsAs env (some (endName name)) inside body) :
    ReadsInside env name inside body none
  | branches {inside other : List Markup} {body alternative : List Node} (elseHeader : String) (elseLine : Nat)
    (hBody : ReadsAs env (some (endName name)) inside body)
    (hAlternative : ReadsAs env (some (endName name)) other alternative) :
    ReadsInside env name (inside ++ .tag "else" elseHeader elseLine :: other) body (some alternative)

section Reader

variable {env : Environment}

theorem ReadsInside.readsAs {closing : Option String} {name header : String} {tag : BlockTag} {loopHeader : LoopHeader}
    {inside rest : List Markup} {body nodes : List Node} {alternative : Option (List Node)}
    (h : ReadsInside env name inside body alternative) (hOpens : ¬(name = "else" ∨ some name = closing))
    (hTag : Dict.get? env.tags name = some tag) (hHeader : LoopHeader.ofText tag header = .ok loopHeader)
    (hRest : ReadsAs env closing rest nodes) (line endLine : Nat) (endHeader : String) :
    ReadsAs env closing (.tag name header line :: (inside ++ .tag (endName name) endHeader endLine :: rest))
      (.loop loopHeader body alternative :: nodes) := by
  cases h with
  | body hBody => exact .loop hOpens hTag hHeader hBody hRest
  | branches elseHeader elseLine hBody hAlternative =>
    rw [List.append_assoc, List.cons_append]
    exact .loopElse hOpens hTag hHeader hBody hAlternative hRest

/-! ## What is read -/

theorem readBlock_of_stops {closing : Option String} {stop : Option Stop} {tail rest : List Markup}
    (h : Stops closing stop tail rest) (fuel : Nat) (hFuel : tail.length ≤ fuel) :
    readBlock env fuel closing tail = .ok ([], stop, rest) := by
  cases h with
  | ended => cases fuel <;> rfl
  | stopped header line rest hStop =>
    cases fuel with
    | zero => simp at hFuel
    | succ fuel => rw [readBlock, if_pos hStop]

/-- Markup that reads as nodes is read as these nodes, up to the place where the block stops. -/
theorem ReadsAs.readBlock_eq {closing : Option String} {inside : List Markup} {nodes : List Node}
    (h : ReadsAs env closing inside nodes) {stop : Option Stop} {tail rest : List Markup}
    (hStops : Stops closing stop tail rest) (fuel : Nat) (hFuel : (inside ++ tail).length ≤ fuel) :
    readBlock env fuel closing (inside ++ tail) = .ok (nodes, stop, rest) := by
  induction h generalizing stop tail rest fuel with
  | nil closing => exact readBlock_of_stops hStops fuel hFuel
  | text content _ ih =>
    cases fuel with
    | zero => simp at hFuel
    | succ fuel =>
      have hRest := ih hStops fuel (Nat.le_of_succ_le_succ hFuel)
      simp only [List.cons_append, readBlock, hRest, ok_bind]
      rfl
  | output line hPipeline _ ih =>
    cases fuel with
    | zero => simp at hFuel
    | succ fuel =>
      have hRest := ih hStops fuel (Nat.le_of_succ_le_succ hFuel)
      simp only [List.cons_append, readBlock, hPipeline, atLine, hRest, ok_bind]
      rfl
  | @loop _ name _ endHeader _ endLine _ _ _ after _ _ hOpens hTag hHeader _ _ ihBody ihRest =>
    cases fuel with
    | zero => simp at hFuel
    | succ fuel =>
      simp only [List.cons_append, List.append_assoc, List.length_cons, List.length_append] at hFuel
      have hEnd := stops_endTag name endHeader endLine (after ++ tail)
      have hBody := ihBody hEnd fuel (by simp; omega)
      have hRest := ihRest hStops fuel (by simp; omega)
      simp only [List.cons_append, List.append_assoc, readBlock, if_neg hOpens, hTag, readBranches, hBody, ok_bind,
        if_neg (endName_ne_else name), pure_eq_ok, hHeader, atLine, hRest]
      rfl
  | @loopElse _ name _ elseHeader endHeader _ elseLine endLine _ _ _ other after _ _ _ hOpens hTag hHeader _ _ _ ihBody
      ihAlternative ihRest =>
    cases fuel with
    | zero => simp at hFuel
    | succ fuel =>
      simp only [List.cons_append, List.append_assoc, List.length_cons, List.length_append] at hFuel
      have hEnd := stops_endTag name endHeader endLine (after ++ tail)
      have hElse := stops_else (some (endName name)) elseHeader elseLine
        (other ++ .tag (endName name) endHeader endLine :: (after ++ tail))
      have hBody := ihBody hElse fuel (by simp; omega)
      have hAlternative := ihAlternative hEnd fuel (by simp; omega)
      have hRest := ihRest hStops fuel (by simp; omega)
      simp only [List.cons_append, List.append_assoc, readBlock, if_neg hOpens, hTag, readBranches, hBody, ok_bind,
        if_true, hAlternative, if_neg (endName_ne_else name), pure_eq_ok, hHeader, atLine, hRest]
      rfl

theorem readsInside_of_readBranches {block : String → List Markup → Except Error Block} {bound : Nat}
    (hBlock : ∀ closing ms nodes stop rest, ms.length ≤ bound → block closing ms = .ok (nodes, stop, rest) →
      ∃ inside tail, ms = inside ++ tail ∧ ReadsAs env (some closing) inside nodes ∧
        Stops (some closing) stop tail rest)
    {name : String} {line : Nat} {ms rest : List Markup} {body : List Node} {alternative : Option (List Node)}
    (hBound : ms.length ≤ bound) (h : readBranches block name line ms = .ok (body, alternative, rest)) :
    ∃ inside endHeader endLine, ms = inside ++ .tag (endName name) endHeader endLine :: rest ∧
      ReadsInside env name inside body alternative := by
  obtain ⟨⟨body', stop, after⟩, hBody, hBranch⟩ := bind_eq_ok.1 h
  obtain ⟨inside, tail, rfl, hInside, hStop⟩ := hBlock _ _ _ _ _ hBound hBody
  cases hStop with
  | ended => cases hBranch
  | @stopped stopName header stopLine _ hStop =>
    by_cases hElse : stopName = "else"
    · simp only [hElse, if_true] at hBranch
      subst hElse
      obtain ⟨⟨alternative', stop, after'⟩, hAlternative, hEnd⟩ := bind_eq_ok.1 hBranch
      have hShorter : after.length ≤ bound := by
        simp only [List.length_append, List.length_cons] at hBound
        omega
      obtain ⟨other, tail, rfl, hOther, hStop'⟩ := hBlock _ _ _ _ _ hShorter hAlternative
      cases hStop' with
      | ended => cases hEnd
      | @stopped secondName endHeader endLine _ hStop' =>
        by_cases hAgain : secondName = "else"
        · simp only [hAgain, if_true] at hEnd
          cases hEnd
        · simp only [hAgain, if_false] at hEnd
          cases hEnd
          obtain rfl := Option.some_inj.1 (hStop'.resolve_left hAgain)
          refine ⟨_, endHeader, endLine, ?_, .branches header stopLine hInside hOther⟩
          rw [List.append_assoc, List.cons_append]
    · simp only [hElse, if_false] at hBranch
      cases hBranch
      obtain rfl := Option.some_inj.1 (hStop.resolve_left hElse)
      exact ⟨inside, header, stopLine, rfl, .body hInside⟩

/-- What has been read as a block reads as its nodes, up to the place where the block stopped. -/
theorem exists_readsAs_of_readBlock {fuel : Nat} {closing : Option String} {ms rest : List Markup} {nodes : List Node}
    {stop : Option Stop} (hFuel : ms.length ≤ fuel) (h : readBlock env fuel closing ms = .ok (nodes, stop, rest)) :
    ∃ inside tail, ms = inside ++ tail ∧ ReadsAs env closing inside nodes ∧ Stops closing stop tail rest := by
  induction fuel generalizing closing ms nodes stop rest with
  | zero =>
    obtain rfl := List.length_eq_zero_iff.1 (Nat.le_zero.1 hFuel)
    cases h
    exact ⟨[], [], rfl, .nil closing, .ended⟩
  | succ fuel ih =>
    cases ms with
    | nil =>
      cases h
      exact ⟨[], [], rfl, .nil closing, .ended⟩
    | cons m ms =>
      have hShorter : ms.length ≤ fuel := Nat.le_of_succ_le_succ hFuel
      cases m with
      | text content =>
        obtain ⟨⟨nodes, stop, rest⟩, hRest, h⟩ := bind_eq_ok.1 h
        cases h
        obtain ⟨inside, tail, rfl, hInside, hStops⟩ := ih hShorter hRest
        exact ⟨_, tail, rfl, .text content hInside, hStops⟩
      | output source line =>
        obtain ⟨pipeline, hPipeline, h⟩ := bind_eq_ok.1 h
        obtain ⟨⟨nodes, stop, rest⟩, hRest, h⟩ := bind_eq_ok.1 h
        cases h
        obtain ⟨inside, tail, rfl, hInside, hStops⟩ := ih hShorter hRest
        exact ⟨_, tail, rfl, .output line (eq_ok_of_atLine hPipeline) hInside, hStops⟩
      | tag name header line =>
        rw [readBlock] at h
        by_cases hStop : name = "else" ∨ some name = closing
        · simp only [hStop, if_true] at h
          cases h
          exact ⟨[], _, rfl, .nil closing, .stopped header line _ hStop⟩
        · simp only [hStop, if_false] at h
          cases hTag : Dict.get? env.tags name with
          | none =>
            rw [hTag] at h
            cases h
          | some tag =>
            rw [hTag] at h
            obtain ⟨⟨body, alternative, after⟩, hBranches, h⟩ := bind_eq_ok.1 h
            obtain ⟨loopHeader, hHeader, h⟩ := bind_eq_ok.1 h
            obtain ⟨⟨nodes, stop, rest⟩, hRest, h⟩ := bind_eq_ok.1 h
            cases h
            obtain ⟨inside, endHeader, endLine, rfl, hInside⟩ :=
              readsInside_of_readBranches (fun _ _ _ _ _ => ih) hShorter hBranches
            have hAfter : after.length ≤ fuel := by
              simp only [List.length_append, List.length_cons] at hShorter
              omega
            obtain ⟨more, tail, rfl, hMore, hStops⟩ := ih hAfter hRest
            have hLoop := hInside.readsAs hStop hTag (eq_ok_of_atLine hHeader) hMore line endLine endHeader
            exact ⟨_, tail, by simp, hLoop, hStops⟩

/-- A template is read as nodes just if its markup reads as them from end to end. -/
theorem nodesOfMarkup_eq_ok_iff {ms : List Markup} {nodes : List Node} :
    nodesOfMarkup env ms = .ok nodes ↔ ReadsAs env none ms nodes := by
  constructor
  · intro h
    obtain ⟨⟨nodes, stop, rest⟩, hRead, hStop⟩ := bind_eq_ok.1 h
    obtain ⟨inside, tail, hSplit, hInside, hStops⟩ := exists_readsAs_of_readBlock (Nat.le_succ _) hRead
    cases hStops with
    | ended =>
      cases hStop
      rwa [hSplit, List.append_nil]
    | stopped => cases hStop
  · intro h
    have hRead := h.readBlock_eq .ended (ms.length + 1) (by simp)
    rw [List.append_nil] at hRead
    rw [nodesOfMarkup, hRead]
    rfl

end Reader

end TemplateQuery.Template
