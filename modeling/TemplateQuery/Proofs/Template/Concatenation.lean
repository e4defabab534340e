import TemplateQuery.Proofs.Template.Blocks
import TemplateQuery.Proofs.Template.Frame
import TemplateQuery.Proofs.Template.Pieces
import TemplateQuery.Proofs.Template.Reading

/-!
# One template after the other

Two templates written one after the other are read as the nodes of the first one and then those of the second one, and
so they write what both of them write. Only the texts where they meet become one text, and only the lines of the second
template change.
-/
namespace TemplateQuery

namespace Template

/-! ## Reading -/

/-- A text as nodes, where an empty one is left out. -/
def textNodes (s : List Char) : List Node := if s.isEmpty then [] else [.text (String.ofList s)]

section Reading

variable {env : Environment} {closing : Option String} {ms ms' : List Markup} {nodes nodes' : List Node}

theorem readsAs_textMarkup (env : Environment) (closing : Option String) (s : List Char) :
    ReadsAs env closing (textMarkup false false s) (textNodes s) := by
  cases s with
  | nil => exact .nil closing
  | cons c s => exact .text _ (.nil closing)

theorem ReadsAs.append (h : ReadsAs env closing ms nodes) (h' : ReadsAs env closing ms' nodes') :
    ReadsAs env closing (ms ++ ms') (nodes ++ nodes') := by
  induction h with
  | nil => exact h'
  | text content _ ih => exact .text content (ih h')
  | output line hPipeline _ ih => exact .output line hPipeline (ih h')
  | loop hOpens hTag hHeader hBody _ _ ih =>
    rw [List.cons_append, List.append_assoc, List.cons_append]
    exact .loop hOpens hTag hHeader hBody (ih h')
  | loopElse hOpens hTag hHeader hBody hAlternative _ _ _ ih =>
    rw [List.cons_append, List.append_assoc, List.cons_append, List.append_assoc, List.cons_append]
    exact .loopElse hOpens hTag hHeader hBody hAlternative (ih h')

/-- The lines of markup do not matter to its nodes. -/
theorem ReadsAs.later (h : ReadsAs env closing ms nodes) (lines : Nat) :
    ReadsAs env closing (ms.map (Markup.later lines)) nodes := by
  induction h with
  | nil closing => exact .nil closing
  | text content _ ih => exact .text content ih
  | output line hPipeline _ ih => exact .output (line + lines) hPipeline ih
  | loop hOpens hTag hHeader _ _ ihBody ihRest =>
    rw [List.map_cons, List.map_append, List.map_cons]
    exact .loop hOpens hTag hHeader ihBody ihRest
  | loopElse hOpens hTag hHeader _ _ _ ihBody ihAlternative ihRest =>
    rw [List.map_cons, List.map_append, List.map_cons, List.map_append, List.map_cons]
    exact .loopElse hOpens hTag hHeader ihBody ihAlternative ihRest

theorem exists_text_last {content name header : String} {line : Nat} {front rest : List Markup}
    (h : ms ++ [.text content] = front ++ .tag name header line :: rest) :
    ∃ rest', rest = rest' ++ [.text content] ∧ ms = front ++ .tag name header line :: rest' := by
  rcases List.eq_nil_or_concat rest with rfl | ⟨rest', m, rfl⟩
  · obtain ⟨-, hLast⟩ := List.append_inj' h rfl
    cases hLast
  · have hSnoc : ms ++ [.text content] = (front ++ .tag name header line :: rest') ++ [m] := by simpa using h
    obtain ⟨rfl, hLast⟩ := List.append_inj' hSnoc rfl
    cases hLast
    exact ⟨rest', List.concat_eq_append, rfl⟩

/-- A text at the end belongs to no block. -/
theorem ReadsAs.exists_of_text_last {content : String} (h : ReadsAs env closing (ms ++ [.text content]) nodes) :
    ∃ front, nodes = front ++ [.text content] ∧ ReadsAs env closing ms front := by
  generalize hAll : ms ++ [Markup.text content] = all at h
  induction h generalizing ms with
  | nil => simp at hAll
  | text content' hRest ih =>
    cases ms with
    | nil =>
      cases hAll
      cases hRest
      exact ⟨[], rfl, .nil _⟩
    | cons m ms =>
      cases hAll
      obtain ⟨front, rfl, hFront⟩ := ih rfl
      exact ⟨_, rfl, .text content' hFront⟩
  | output line hPipeline _ ih =>
    cases ms with
    | nil => cases hAll
    | cons m ms =>
      cases hAll
      obtain ⟨front, rfl, hFront⟩ := ih rfl
      exact ⟨_, rfl, .output line hPipeline hFront⟩
  | loop hOpens hTag hHeader hBody _ _ ih =>
    rw [← List.cons_append] at hAll
    obtain ⟨rest, rfl, rfl⟩ := exists_text_last hAll
    obtain ⟨front, rfl, hFront⟩ := ih rfl
    exact ⟨_, rfl, .loop hOpens hTag hHeader hBody hFront⟩
  | loopElse hOpens hTag hHeader hBody hAlternative _ _ _ ih =>
    rw [← List.cons_append, ← List.cons_append, ← List.append_assoc] at hAll
    obtain ⟨rest, rfl, rfl⟩ := exists_text_last hAll
    obtain ⟨front, rfl, hFront⟩ := ih rfl
    rw [List.append_assoc]
    exact ⟨_, rfl, .loopElse hOpens hTag hHeader hBody hAlternative hFront⟩

theorem ReadsAs.exists_of_textMarkup_last {s : List Char}
    (h : ReadsAs env closing (ms ++ textMarkup false false s) nodes) :
    ∃ front, nodes = front ++ textNodes s ∧ ReadsAs env closing ms front := by
  cases s with
  | nil => exact ⟨nodes, (List.append_nil _).symm, by rwa [← List.append_nil ms]⟩
  | cons c s => exact ReadsAs.exists_of_text_last h

theorem ReadsAs.exists_of_textMarkup_first {s : List Char}
    (h : ReadsAs env closing (textMarkup false false s ++ ms) nodes) :
    ∃ back, nodes = textNodes s ++ back ∧ ReadsAs env closing ms back := by
  cases s with
  | nil => exact ⟨nodes, rfl, h⟩
  | cons c s =>
    cases h with
    | text _ hRest => exact ⟨_, rfl, hRest⟩

/-- Where two texts meet, the nodes of all the markup are those of its parts, with one text in place of two. -/
theorem exists_readsAs_of_texts_meet {before after : List Char} (lines : Nat)
    (h : ReadsAs env closing (ms ++ textMarkup false false before) nodes)
    (h' : ReadsAs env closing (textMarkup false false after ++ ms') nodes') :
    ∃ front back, nodes = front ++ textNodes before ∧ nodes' = textNodes after ++ back ∧
      ReadsAs env closing (ms ++ textMarkup false false (before ++ after) ++ ms'.map (Markup.later lines))
        (front ++ textNodes (before ++ after) ++ back) := by
  obtain ⟨front, rfl, hFront⟩ := h.exists_of_textMarkup_last
  obtain ⟨back, rfl, hBack⟩ := h'.exists_of_textMarkup_first
  exact ⟨front, back, rfl, rfl, (hFront.append (readsAs_textMarkup env closing _)).append (hBack.later lines)⟩

end Reading

/-! ## Rendering -/

theorem Outcome.andThen_assoc (outcome : Outcome) (next after : Progress → Outcome) :
    (outcome.andThen next).andThen after = outcome.andThen fun p => (next p).andThen after := by
  rcases outcome with ⟨p, _ | ⟨⟨⟩⟩⟩ <;> rfl

theorem renderNodes_append (env : Environment) (nodes more : List Node) (p : Progress) :
    renderNodes env (nodes ++ more) p = (renderNodes env nodes p).andThen (renderNodes env more) := by
  induction nodes generalizing p with
  | nil => rfl
  | cons node rest ih =>
    have hRest : renderNodes env (rest ++ more) = fun q => (renderNodes env rest q).andThen (renderNodes env more) :=
      funext ih
    rw [List.cons_append, renderNodes, renderNodes, hRest, Outcome.andThen_assoc]

theorem renderNodes_textNodes (env : Environment) (s : List Char) (p : Progress) :
    renderNodes env (textNodes s) p = (p.write (String.ofList s)).succeed := by
  cases s with
  | nil => simp [textNodes, renderNodes, Progress.write]
  | cons c s => rfl

/-- Two texts in a row are written like one. -/
theorem renderNodes_texts_meet (env : Environment) (front back : List Node) (before after : List Char) :
    renderNodes env (front ++ textNodes (before ++ after) ++ back) =
      renderNodes env ((front ++ textNodes before) ++ (textNodes after ++ back)) := by
  have hTexts : renderNodes env (textNodes (before ++ after)) =
      renderNodes env (textNodes before ++ textNodes after) := by
    funext p
    simp only [renderNodes_append, renderNodes_textNodes, Progress.succeed, Outcome.andThen, Progress.write,
      String.ofList_append, String.append_assoc]
  funext p
  have hRegroup : (front ++ textNodes before) ++ (textNodes after ++ back) =
      front ++ (textNodes before ++ textNodes after) ++ back := by simp only [List.append_assoc]
  rw [hRegroup]
  simp only [renderNodes_append env _ back, renderNodes_append env front, hTexts]

/-- Nodes after others write what they would write alone. -/
theorem resultOf_renderNodes_append (env : Environment) (nodes more : List Node) (context : RenderContext) :
    resultOf (renderNodes env (nodes ++ more) ⟨context, ""⟩) = do
      let s ← resultOf (renderNodes env nodes ⟨context, ""⟩)
      let s' ← resultOf (renderNodes env more ⟨context, ""⟩)
      return s ++ s' := by
  obtain ⟨s, result, hNodes⟩ := frames_renderNodes env nodes context
  obtain ⟨s', result', hMore⟩ := frames_renderNodes env more context
  rw [renderNodes_append, hNodes, hMore]
  cases result with
  | error e => rfl
  | ok _ =>
    simp only [Outcome.andThen, hMore]
    cases result' with
    | error e => rfl
    | ok _ => simp [resultOf, Except.map]

theorem render_append (env : Environment) (nodes more : List Node) (globals : Dict Json) (data : Json) :
    Template.render ⟨env, nodes ++ more, globals⟩ data = do
      let s ← Template.render ⟨env, nodes, globals⟩ data
      let s' ← Template.render ⟨env, more, globals⟩ data
      return s ++ s' := by
  have hRender : ∀ nodes, Template.render ⟨env, nodes, globals⟩ data =
      Template.context ⟨env, [], globals⟩ data >>= fun context => resultOf (renderNodes env nodes ⟨context, ""⟩) :=
    fun _ => rfl
  simp only [hRender]
  cases Template.context ⟨env, [], globals⟩ data with
  | error e => rfl
  | ok context => exact resultOf_renderNodes_append env nodes more context

/-- Let two templates be read in an environment, let no markup open where they meet, and let the last markup of the
first one and the first markup of the second one trim nothing there. Then they are read one after the other too, and a
render writes what the first one writes and then what the second one writes; it fails as the first one does, or as the
second one does if the first one does not fail. -/
theorem joined_source_renders_in_sequence {env : Environment} {source more : String} {globals : Dict Json}
    {first second : Template} (hFirst : Template.ofText env source globals = .ok first)
    (hSecond : Template.ofText env more globals = .ok second) (hSeam : ¬OpensAcross source.toList more.toList)
    (hEnds : ¬EndsTrimming source.toList) (hStarts : ¬StartsTrimming more.toList) :
    ∃ joined, Template.ofText env (source ++ more) globals = .ok joined ∧ ∀ data,
      joined.render data = do
        let s ← first.render data
        let s' ← second.render data
        return s ++ s' := by
  obtain ⟨ms, hScan, hRead⟩ := bind_eq_ok.1 hFirst
  obtain ⟨nodes, hNodes, hFirst⟩ := bind_eq_ok.1 hRead
  obtain ⟨ms', hScan', hRead'⟩ := bind_eq_ok.1 hSecond
  obtain ⟨nodes', hNodes', hSecond⟩ := bind_eq_ok.1 hRead'
  cases hFirst
  cases hSecond
  obtain ⟨front, before, after, back, lines, rfl, rfl, hJoined⟩ := scan_append hScan hScan' hSeam hEnds hStarts
  rw [nodesOfMarkup_eq_ok_iff] at hNodes hNodes'
  obtain ⟨first, last, rfl, rfl, hMeet⟩ := exists_readsAs_of_texts_meet lines hNodes hNodes'
  refine ⟨⟨env, first ++ textNodes (before ++ after) ++ last, globals⟩, ?_, fun data => ?_⟩
  · rw [Template.ofText, hJoined, ok_bind, nodesOfMarkup_eq_ok_iff.2 hMeet]
    rfl
  · rw [← render_append, Template.render, Template.render, renderNodes_texts_meet]
    rfl

/-- The cells of all rows. -/
def cells : String :=
  "Cells:\x7b% for row in rows -%\x7d \x7b% for x in row %\x7d \x7b\x7b x \x7d\x7d\x7b% endfor %\x7d\x7b% endfor %\x7d"

def cellPieces : List Piece :=
  [⟨"Cells:".toList, .tag, " for row in rows -".toList⟩, ⟨[' '], .tag, " for x in row ".toList⟩,
    ⟨[' '], .output, " x ".toList⟩, ⟨[], .tag, " endfor ".toList⟩, ⟨[], .tag, " endfor ".toList⟩]

def cellsTemplate : Template where
  environment := .standard
  nodes := [.text "Cells:", .loop ⟨"row", .reference "rows" [], none, .initial⟩
    [.loop ⟨"x", .reference "row" [], none, .initial⟩ [.text " ", .output ⟨.reference "x" [], []⟩] none] none]
  globals := []

/-- How many rows there are. -/
def rowCount : String := " in \x7b\x7b rows | size -\x7d\x7d rows."

def rowCountPieces : List Piece := [⟨" in ".toList, .output, " rows | size -".toList⟩]

def rowCountTemplate : Template where
  environment := .standard
  nodes := [.text " in ", .output ⟨.reference "rows" [], [⟨"size", []⟩]⟩, .text "rows."]
  globals := []

theorem cut_cells : Cut cells.toList cellPieces [] :=
  .piece rfl rfl (.piece rfl rfl (.piece rfl rfl (.piece rfl rfl (.piece rfl rfl (.last rfl)))))

theorem cut_rowCount : Cut rowCount.toList rowCountPieces " rows.".toList := .piece rfl rfl (.last rfl)

theorem joined_source_renders_in_sequence_cells :
    Template.ofText .standard cells [] = .ok cellsTemplate ∧ Template.ofText .standard rowCount [] = .ok rowCountTemplate ∧
    ¬OpensAcross cells.toList rowCount.toList ∧ ¬EndsTrimming cells.toList ∧ ¬StartsTrimming rowCount.toList ∧
    ∃ joined, Template.ofText .standard (cells ++ rowCount) [] = .ok joined ∧ ∀ data,
      joined.render data = do
        let s ← cellsTemplate.render data
        let s' ← rowCountTemplate.render data
        return s ++ s' := by
  have hSeam : ¬OpensAcross cells.toList rowCount.toList := by
    rintro ⟨c, hc, d, hd, hOpens⟩
    cases hc
    cases hOpens.1
  have hEnds : ¬EndsTrimming cells.toList := by
    rw [cut_cells.endsTrimming_iff]
    decide
  have hStarts : ¬StartsTrimming rowCount.toList := by
    rw [cut_rowCount.startsTrimming_iff]
    decide
  have hFirst : Template.ofText .standard cells [] = .ok cellsTemplate := rfl
  have hSecond : Template.ofText .standard rowCount [] = .ok rowCountTemplate := rfl
  exact ⟨hFirst, hSecond, hSeam, hEnds, hStarts,
    joined_source_renders_in_sequence hFirst hSecond hSeam hEnds hStarts⟩

end Template

end TemplateQuery
