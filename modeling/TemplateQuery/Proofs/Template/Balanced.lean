import Mathlib.Computability.Language
import TemplateQuery.Proofs.Template.Blocks

/-!
# Balanced templates

Which sequences of markup are templates is a matter of grammar alone, once every expression and every header in them can
be read. A node tree is written from left to right with the tags of its blocks around them, and up to the wording of
expressions and headers this gives back the markup that the tree was read from: nothing is lost or comes twice, and each
`else` stands in the innermost block that was open.
-/
namespace TemplateQuery.Template

/-! ## The grammar -/

/-- No tag is named `else` or like the end of a tag. -/
def Environment.TagsApart (env : Environment) : Prop :=
  ∀ name, env.Knows name → name ≠ "else" ∧ ∀ other, env.Knows other → name ≠ endName other

/-- All output expressions can be read, and all tags accept their headers. -/
structure Environment.Accepts (env : Environment) (ms : List Markup) : Prop where
  output : ∀ source line, .output source line ∈ ms → ∃ pipeline, Pipeline.ofText source = .ok pipeline
  header : ∀ name header line tag, .tag name header line ∈ ms → Dict.get? env.tags name = some tag →
    ∃ loopHeader, LoopHeader.ofText tag header = .ok loopHeader

theorem Environment.Accepts.mono {env : Environment} {ms inner : List Markup} (h : env.Accepts ms) (hInner : inner ⊆ ms) :
    env.Accepts inner where
  output source line hMem := h.output source line (hInner hMem)
  header name header line tag hMem := h.header name header line tag (hInner hMem)

/-! ## Trees from left to right -/

def tagMarkup (name : String) : Language Markup := {ms | ∃ header line, ms = [.tag name header line]}

/-- A tag of a name whose header reads as the given one. -/
def openingMarkup (env : Environment) (name : String) (header : LoopHeader) : Language Markup :=
  {ms | ∃ tag text line, Dict.get? env.tags name = some tag ∧ LoopHeader.ofText tag text = .ok header ∧
    ms = [.tag name text line]}

mutual

/-- The markup that the node stands for. It may word its expression and its header in any way and be on any line. -/
def Node.markup (env : Environment) : Node → Language Markup
  | .text content => {ms | ms = [.text content]}
  | .output pipeline => {ms | ∃ source line, Pipeline.ofText source = .ok pipeline ∧ ms = [.output source line]}
  | .loop header body alternative =>
    {ms | ∃ name, ms ∈ openingMarkup env name header * (markupOf env body * (markupOfAlternative env alternative *
      tagMarkup (endName name)))}
termination_by structural node => node

def markupOfAlternative (env : Environment) : Option (List Node) → Language Markup
  | none => 1
  | some nodes => tagMarkup "else" * markupOf env nodes
termination_by structural nodes => nodes

def markupOf (env : Environment) : List Node → Language Markup
  | [] => 1
  | node :: rest => node.markup env * markupOf env rest
termination_by structural nodes => nodes

end

section Grammar

variable {env : Environment}

/-- The markup of a block is its opening tag, that of its parts, and an end tag of the same name. -/
theorem mem_markup_loop {header : LoopHeader} {body : List Node} {alternative : Option (List Node)} {ms : List Markup} :
    ms ∈ (Node.loop header body alternative).markup env ↔
      ∃ name tag text line inside other endHeader endLine, Dict.get? env.tags name = some tag ∧
        LoopHeader.ofText tag text = .ok header ∧ inside ∈ markupOf env body ∧
        other ∈ markupOfAlternative env alternative ∧
        ms = .tag name text line :: (inside ++ (other ++ [.tag (endName name) endHeader endLine])) := by
  constructor
  · rintro ⟨name, _, ⟨tag, text, line, hTag, hHeader, rfl⟩, _, ⟨inside, hInside, _, ⟨other, hOther, _,
      ⟨endHeader, endLine, rfl⟩, rfl⟩, rfl⟩, rfl⟩
    exact ⟨name, tag, text, line, inside, other, endHeader, endLine, hTag, hHeader, hInside, hOther, rfl⟩
  · rintro ⟨name, tag, text, line, inside, other, endHeader, endLine, hTag, hHeader, hInside, hOther, rfl⟩
    exact ⟨name, _, ⟨tag, text, line, hTag, hHeader, rfl⟩, _, ⟨inside, hInside, _, ⟨other, hOther, _,
      ⟨endHeader, endLine, rfl⟩, rfl⟩, rfl⟩, rfl⟩

/-- The name that closes a block belongs to a tag. -/
def ClosesTag (env : Environment) (closing : Option String) : Prop :=
  ∀ name ∈ closing, ∃ opening, env.Knows opening ∧ name = endName opening

theorem closesTag_endName {name : String} (h : env.Knows name) : ClosesTag env (some (endName name)) := by
  rintro _ ⟨rfl⟩
  exact ⟨name, h, rfl⟩

/-- A tag of a known name opens a block wherever it stands. -/
theorem Environment.TagsApart.opens (hApart : env.TagsApart) {closing : Option String} (hClosing : ClosesTag env closing)
    {name : String} (hName : env.Knows name) : ¬(name = "else" ∨ some name = closing) := by
  rintro (hElse | rfl)
  · exact (hApart name hName).1 hElse
  · obtain ⟨opening, hOpening, hEnd⟩ := hClosing name rfl
    exact (hApart name hName).2 opening hOpening hEnd

mutual

theorem readsAs_of_mem_markup (hApart : env.TagsApart) : ∀ (node : Node) {closing : Option String} {ms rest : List Markup}
    {nodes : List Node}, ClosesTag env closing → ms ∈ node.markup env → ReadsAs env closing rest nodes →
    ReadsAs env closing (ms ++ rest) (node :: nodes)
  | .text content, _, _, _, _, _, hMem, hRest => by
    obtain rfl := hMem
    exact .text content hRest
  | .output pipeline, _, _, _, _, _, hMem, hRest => by
    obtain ⟨source, line, hPipeline, rfl⟩ := hMem
    exact .output line hPipeline hRest
  | .loop header body alternative, _, _, _, _, hClosing, hMem, hRest => by
    obtain ⟨name, tag, text, line, inside, other, endHeader, endLine, hTag, hHeader, hInside, hOther, rfl⟩ :=
      mem_markup_loop.1 hMem
    have hName : env.Knows name := ⟨tag, hTag⟩
    have hBody := readsAs_of_mem_markupOf hApart body (closesTag_endName hName) hInside
    have hInside := readsInside_of_mem_markup hApart alternative hName hBody hOther
    have hReads := hInside.readsAs (hApart.opens hClosing hName) hTag hHeader hRest line endLine endHeader
    simpa using hReads
termination_by structural node => node

theorem readsInside_of_mem_markup (hApart : env.TagsApart) : ∀ (alternative : Option (List Node)) {name : String}
    {inside other : List Markup} {body : List Node}, env.Knows name → ReadsAs env (some (endName name)) inside body →
    other ∈ markupOfAlternative env alternative → ReadsInside env name (inside ++ other) body alternative
  | none, _, _, _, _, _, hBody, hMem => by
    obtain rfl := hMem
    rw [List.append_nil]
    exact .body hBody
  | some nodes, _, _, _, _, hName, hBody, hMem => by
    obtain ⟨_, ⟨elseHeader, elseLine, rfl⟩, other, hOther, rfl⟩ := hMem
    exact .branches elseHeader elseLine hBody (readsAs_of_mem_markupOf hApart nodes (closesTag_endName hName) hOther)
termination_by structural alternative => alternative

/-- Where the names of tags are apart, the markup of a tree reads as the tree. -/
theorem readsAs_of_mem_markupOf (hApart : env.TagsApart) : ∀ (nodes : List Node) {closing : Option String}
    {ms : List Markup}, ClosesTag env closing → ms ∈ markupOf env nodes → ReadsAs env closing ms nodes
  | [], closing, _, _, hMem => by
    obtain rfl := hMem
    exact .nil closing
  | node :: rest, _, _, hClosing, hMem => by
    obtain ⟨ms, hNode, more, hRest, rfl⟩ := hMem
    exact readsAs_of_mem_markup hApart node hClosing hNode (readsAs_of_mem_markupOf hApart rest hClosing hRest)
termination_by structural nodes => nodes

end

end Grammar

end TemplateQuery.Template
