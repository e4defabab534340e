import TemplateQuery.Pattern.Reader
import TemplateQuery.Proofs.Template.Expressions
import TemplateQuery.Proofs.Template.Replacement
import TemplateQuery.Proofs.Template.Spacing

/-!
# Texts of loop headers

The grammar of loop headers: a name, the word `in`, a source, perhaps a pipe with a quoted path, then limits, offsets,
`reversed` and commas in any order. An argument has no end of its own, but none of the clauses can go on with it, so a
header's tokens show where each of its parts ends.
-/
namespace TemplateQuery.Template

/-! ## Clauses -/

inductive Clause where
  | comma
  | reversed
  | limit (count : Expression)
  | offset (count : Expression)

inductive ClauseKind where
  | comma
  | reversed
  | limit
  | offset
deriving DecidableEq

def Clause.kind : Clause → ClauseKind
  | .comma => .comma
  | .reversed => .reversed
  | .limit _ => .limit
  | .offset _ => .offset

def Clause.limit? : Clause → Option Expression
  | .limit e => some e
  | _ => none

def Clause.offset? : Clause → Option Expression
  | .offset e => some e
  | _ => none

/-- The last limit and the last offset of some clauses, and whether one of them is `reversed`. -/
def Modifiers.ofClauses (clauses : List Clause) : Modifiers where
  limit := (clauses.filterMap Clause.limit?).getLast?
  offset := (clauses.filterMap Clause.offset?).getLast?
  reversed := clauses.any (·.kind = .reversed)

def Modifiers.add (m : Modifiers) : Clause → Modifiers
  | .comma => m
  | .reversed => { m with reversed := true }
  | .limit e => { m with limit := some e }
  | .offset e => { m with offset := some e }

theorem foldl_add_initial (clauses : List Clause) : clauses.foldl Modifiers.add .initial = .ofClauses clauses := by
  -- From the end, since a later clause takes the place of an earlier one.
  induction clauses using List.reverseRecOn with
  | nil => rfl
  | append_singleton clauses clause ih =>
    rw [List.foldl_append, ih]
    cases clause <;> simp [Modifiers.ofClauses, Modifiers.add, Clause.limit?, Clause.offset?, Clause.kind]

/-- What is only found in clauses of one kind is found as well with the others left out. -/
theorem filterMap_kind {α : Type} {f : Clause → Option α} {kind : ClauseKind}
    (hf : ∀ clause, clause.kind ≠ kind → f clause = none) (clauses : List Clause) :
    (clauses.filter (·.kind = kind)).filterMap f = clauses.filterMap f := by
  rw [List.filterMap_filter]
  refine List.filterMap_congr fun clause _ => ?_
  by_cases hKind : clause.kind = kind
  · simp [hKind]
  · simp [hKind, hf clause hKind]

/-- Clauses of different kinds can stand in any order. -/
theorem Modifiers.ofClauses_congr {clauses clauses' : List Clause}
    (h : ∀ kind, kind ≠ .comma → clauses.filter (·.kind = kind) = clauses'.filter (·.kind = kind)) :
    Modifiers.ofClauses clauses = .ofClauses clauses' := by
  have hLimit : ∀ clause : Clause, clause.kind ≠ .limit → clause.limit? = none := by
    rintro (_ | _ | _ | _) hKind <;> first | rfl | exact absurd rfl hKind
  have hOffset : ∀ clause : Clause, clause.kind ≠ .offset → clause.offset? = none := by
    rintro (_ | _ | _ | _) hKind <;> first | rfl | exact absurd rfl hKind
  have hReversed : ∀ clauses : List Clause,
      (clauses.filter (·.kind = .reversed)).any (·.kind = .reversed) = clauses.any (·.kind = .reversed) := by
    intro clauses
    simp [List.any_filter]
  rw [ofClauses, ofClauses, ← filterMap_kind hLimit clauses, ← filterMap_kind hOffset clauses, ← hReversed clauses,
    h .limit (by decide), h .offset (by decide), h .reversed (by decide), filterMap_kind hLimit, filterMap_kind hOffset,
    hReversed]

/-! ## Writing -/

inductive Clause.WrittenAs : Clause → List (List Token) → Prop where
  | comma : WrittenAs .comma [[.comma]]
  | reversed : WrittenAs .reversed [[.word "reversed"]]
  | limit {e : Expression} {ts : List Token} (h : e.WrittenAs ts) : WrittenAs (.limit e) [[.word "limit"], [.colon], ts]
  | offset {e : Expression} {ts : List Token} (h : e.WrittenAs ts) : WrittenAs (.offset e) [[.word "offset"], [.colon], ts]

/-- The parts that a loop header is written with, each of them some tokens. Its path is one that can be compiled with the
functions of the loop. -/
inductive LoopHeader.WrittenAs (settings : QuerySettings) : LoopHeader → List (List Token) → Prop where
  | plain {name : String} {source : Expression} {ts : List Token} {clauses : List Clause} {parts : List (List Token)}
    (hSource : source.WrittenAs ts) (hClauses : InTurn Clause.WrittenAs clauses parts) :
    WrittenAs settings ⟨name, source, none, .ofClauses clauses⟩ ([.word name] :: [.word "in"] :: ts :: parts)
  | querying {name path : String} {source : Expression} {query : Query.Compiled} {ts : List Token} {clauses : List Clause}
    {parts : List (List Token)} (hSource : source.WrittenAs ts) (hPath : Query.compile settings.functions path = .ok query)
    (hClauses : InTurn Clause.WrittenAs clauses parts) :
    WrittenAs settings ⟨name, source, some ⟨query, settings.policy⟩, .ofClauses clauses⟩
      ([.word name] :: [.word "in"] :: ts :: [.pipe] :: [.string path] :: parts)

/-! ## Reading -/

theorem endsPath_clauses {clauses : List Clause} {parts : List (List Token)} (h : InTurn Clause.WrittenAs clauses parts) :
    EndsPath parts.flatten := by
  cases h with
  | nil => exact endsPath_nil
  | cons hFirst _ => cases hFirst <;> exact endsPath_cons (by simp) (by simp) _

/-- One round reads a clause, if what follows does not go on with it. -/
theorem Clause.WrittenAs.read {clause : Clause} {parts : List (List Token)} {rest : List Token} (h : clause.WrittenAs parts)
    (hEnd : EndsPath rest) (fuel : Nat) (m : Modifiers) :
    readModifiers (fuel + 1) m (parts.flatten ++ rest) = readModifiers fuel (m.add clause) rest := by
  cases h with
  | comma | reversed => rfl
  | limit h | offset h => simp [readModifiers, expectToken, h.read hEnd, Modifiers.add]

theorem Clause.WrittenAs.length_pos {clause : Clause} {parts : List (List Token)} (h : clause.WrittenAs parts) :
    0 < parts.flatten.length := by
  cases h <;> simp

theorem readModifiers_inTurn {clauses : List Clause} {parts : List (List Token)}
    (h : InTurn Clause.WrittenAs clauses parts) {fuel : Nat} (hFuel : parts.flatten.length ≤ fuel) (m : Modifiers) :
    readModifiers fuel m parts.flatten = .ok (clauses.foldl Modifiers.add m) := by
  induction h generalizing fuel m with
  | nil => cases fuel <;> rfl
  | @cons clause clauses ts us hFirst hRest ih =>
    have hPositive := hFirst.length_pos
    rw [List.flatten_append, List.length_append] at hFuel
    obtain ⟨fuel, rfl⟩ : ∃ n, fuel = n + 1 := ⟨fuel - 1, by omega⟩
    rw [List.flatten_append, hFirst.read (endsPath_clauses hRest), List.foldl_cons]
    exact ih (by omega) (m.add clause)

theorem Modifiers.ofTokens_inTurn {clauses : List Clause} {parts : List (List Token)}
    (h : InTurn Clause.WrittenAs clauses parts) : Modifiers.ofTokens parts.flatten = .ok (.ofClauses clauses) := by
  rw [Modifiers.ofTokens, readModifiers_inTurn h (Nat.le_refl _), foldl_add_initial]

theorem Clause.WrittenAs.forall_part {clause : Clause} {parts : List (List Token)} (h : clause.WrittenAs parts) :
    ∀ part ∈ parts, part ≠ [] ∧ .pipe ∉ part := by
  cases h with
  | comma | reversed => simp
  | limit h | offset h => simp [h.ne_nil, h.pipe_notMem]

theorem forall_part_clauses {clauses : List Clause} {parts : List (List Token)} (h : InTurn Clause.WrittenAs clauses parts) :
    ∀ part ∈ parts, part ≠ [] ∧ .pipe ∉ part :=
  h.forall_mem fun _ _ hClause => hClause.forall_part

theorem pipe_notMem_clauses {clauses : List Clause} {parts : List (List Token)} (h : InTurn Clause.WrittenAs clauses parts) :
    .pipe ∉ parts.flatten := by
  rw [List.mem_flatten]
  rintro ⟨part, hPart, hMem⟩
  exact (forall_part_clauses h part hPart).2 hMem

theorem LoopHeader.WrittenAs.ne_nil {settings : QuerySettings} {header : LoopHeader} {parts : List (List Token)}
    (h : header.WrittenAs settings parts) : ∀ part ∈ parts, part ≠ [] := by
  cases h with
  | plain hSource hClauses =>
    simpa using ⟨hSource.ne_nil, fun part hPart => (forall_part_clauses hClauses part hPart).1⟩
  | querying hSource _ hClauses =>
    simpa using ⟨hSource.ne_nil, fun part hPart => (forall_part_clauses hClauses part hPart).1⟩

theorem LoopHeader.WrittenAs.read {settings : QuerySettings} {header : LoopHeader} {parts : List (List Token)}
    (h : header.WrittenAs settings parts) : LoopHeader.ofTokens (.queryLoop settings) parts.flatten = .ok header := by
  cases h with
  | @plain name source ts clauses parts hSource hClauses =>
    have hPipe : ∀ rest, parts.flatten ≠ .pipe :: rest := by
      intro rest hEq
      exact pipe_notMem_clauses hClauses (hEq ▸ List.mem_cons_self)
    simp [LoopHeader.ofTokens, expectWord, expectIn, hSource.read (endsPath_clauses hClauses),
      readOptionalQuery_of_ne_pipe _ hPipe, Modifiers.ofTokens_inTurn hClauses]
  | @querying name path source query ts clauses parts hSource hPath hClauses =>
    have hEnd : EndsPath (.pipe :: .string path :: parts.flatten) := endsPath_cons (by decide) (by decide) _
    simp [LoopHeader.ofTokens, expectWord, expectIn, hSource.read hEnd, readOptionalQuery, readLoopQuery, hPath,
      Modifiers.ofTokens_inTurn hClauses]

/-! ## What is accepted -/

theorem eq_of_expectToken {t : Token} {ts rest : List Token} (h : expectToken t ts = .ok rest) : ts = t :: rest := by
  unfold expectToken at h
  split at h
  · split at h <;> cases h
    simp [*]
  · cases h

/-- A limit or an offset after its word is a colon and what the count is written with. -/
theorem exists_writtenAs_of_count {ts afterColon rest : List Token} {e : Expression}
    (hColon : expectToken .colon ts = .ok afterColon) (hCount : readExpression afterColon = .ok (e, rest)) :
    ∃ us, ts = .colon :: (us ++ rest) ∧ e.WrittenAs us := by
  obtain ⟨us, rfl, hWritten⟩ := exists_writtenAs_of_readExpression hCount
  exact ⟨us, eq_of_expectToken hColon, hWritten⟩

/-- One round takes a clause. -/
theorem exists_clause_of_readModifiers {fuel : Nat} {m m' : Modifiers} {t : Token} {ts : List Token}
    (h : readModifiers (fuel + 1) m (t :: ts) = .ok m') :
    ∃ clause parts rest, clause.WrittenAs parts ∧ t :: ts = parts.flatten ++ rest ∧
      readModifiers fuel (m.add clause) rest = .ok m' := by
  cases t with
  | comma => exact ⟨_, _, ts, .comma, rfl, h⟩
  | word w =>
    rw [readModifiers] at h
    by_cases hReversed : w = "reversed"
    · rw [if_pos hReversed] at h
      subst hReversed
      exact ⟨_, _, ts, .reversed, rfl, h⟩
    by_cases hLimit : w = "limit"
    · rw [if_neg hReversed, if_pos hLimit] at h
      subst hLimit
      obtain ⟨afterColon, hColon, hAfter⟩ := bind_eq_ok.1 h
      obtain ⟨⟨e, rest⟩, hCount, hMore⟩ := bind_eq_ok.1 hAfter
      obtain ⟨us, rfl, hWritten⟩ := exists_writtenAs_of_count hColon hCount
      exact ⟨_, _, rest, .limit hWritten, by simp, hMore⟩
    by_cases hOffset : w = "offset"
    · rw [if_neg hReversed, if_neg hLimit, if_pos hOffset] at h
      subst hOffset
      obtain ⟨afterColon, hColon, hAfter⟩ := bind_eq_ok.1 h
      obtain ⟨⟨e, rest⟩, hCount, hMore⟩ := bind_eq_ok.1 hAfter
      obtain ⟨us, rfl, hWritten⟩ := exists_writtenAs_of_count hColon hCount
      exact ⟨_, _, rest, .offset hWritten, by simp, hMore⟩
    · rw [if_neg hReversed, if_neg hLimit, if_neg hOffset] at h
      cases h
  | string _ | int _ | float _ | dot | openBracket | closeBracket | pipe | colon => cases h

theorem exists_inTurn_of_readModifiers {fuel : Nat} {m m' : Modifiers} {ts : List Token} (hFuel : ts.length ≤ fuel)
    (h : readModifiers fuel m ts = .ok m') :
    ∃ clauses parts, InTurn Clause.WrittenAs clauses parts ∧ ts = parts.flatten ∧ clauses.foldl Modifiers.add m = m' := by
  induction fuel generalizing m ts with
  | zero =>
    obtain rfl : ts = [] := List.length_eq_zero_iff.1 (by omega)
    cases h
    exact ⟨[], [], .nil, rfl, rfl⟩
  | succ fuel ih =>
    cases ts with
    | nil =>
      cases h
      exact ⟨[], [], .nil, rfl, rfl⟩
    | cons t ts =>
      obtain ⟨clause, parts, rest, hClause, hSplit, hMore⟩ := exists_clause_of_readModifiers h
      have hShorter : rest.length ≤ fuel := by
        have hLength := congrArg List.length hSplit
        have hPositive := hClause.length_pos
        rw [List.length_cons, List.length_append] at hLength
        rw [List.length_cons] at hFuel
        omega
      obtain ⟨clauses, more, hTurn, rfl, rfl⟩ := ih hShorter hMore
      refine ⟨clause :: clauses, parts ++ more, .cons hClause hTurn, ?_, rfl⟩
      rw [hSplit, List.flatten_append]

theorem Modifiers.exists_inTurn_of_ofTokens {m : Modifiers} {ts : List Token} (h : Modifiers.ofTokens ts = .ok m) :
    ∃ clauses parts, InTurn Clause.WrittenAs clauses parts ∧ ts = parts.flatten ∧ .ofClauses clauses = m := by
  simpa only [foldl_add_initial] using exists_inTurn_of_readModifiers (Nat.le_refl _) h

theorem exists_path_of_readOptionalQuery {settings : QuerySettings} {ts rest : List Token} {q : Option LoopQuery}
    (h : readOptionalQuery (.queryLoop settings) ts = .ok (q, rest)) :
    q = none ∧ ts = rest ∨
      ∃ path query, Query.compile settings.functions path = .ok query ∧ q = some ⟨query, settings.policy⟩ ∧
        ts = .pipe :: .string path :: rest := by
  by_cases hPipe : ∃ after, ts = .pipe :: after
  · obtain ⟨after, rfl⟩ := hPipe
    obtain ⟨⟨q, rest⟩, hQuery, h⟩ := bind_eq_ok.1 h
    cases h
    unfold readLoopQuery at hQuery
    split at hQuery
    · rename_i path after
      cases hPath : Query.compile settings.functions path with
      | error e =>
        rw [hPath] at hQuery
        cases hQuery
      | ok query =>
        rw [hPath] at hQuery
        cases hQuery
        exact .inr ⟨path, query, hPath, rfl, rfl⟩
    · cases hQuery
  · rw [readOptionalQuery_of_ne_pipe _ fun after hAfter => hPipe ⟨after, hAfter⟩] at h
    cases h
    exact .inl ⟨rfl, rfl⟩

theorem LoopHeader.exists_writtenAs_of_ofTokens {settings : QuerySettings} {header : LoopHeader} {ts : List Token}
    (h : LoopHeader.ofTokens (.queryLoop settings) ts = .ok header) :
    ∃ parts, header.WrittenAs settings parts ∧ ts = parts.flatten := by
  obtain ⟨⟨name, afterName⟩, hName, h⟩ := bind_eq_ok.1 h
  obtain ⟨afterIn, hIn, h⟩ := bind_eq_ok.1 h
  obtain ⟨⟨source, afterSource⟩, hSource, h⟩ := bind_eq_ok.1 h
  obtain ⟨⟨query, afterQuery⟩, hQuery, h⟩ := bind_eq_ok.1 h
  obtain ⟨m, hModifiers, h⟩ := bind_eq_ok.1 h
  cases h
  obtain ⟨us, hSplit, hWritten⟩ := exists_writtenAs_of_readExpression hSource
  obtain ⟨clauses, parts, hClauses, rfl, rfl⟩ := Modifiers.exists_inTurn_of_ofTokens hModifiers
  rw [eq_of_expectWord hName, eq_of_expectIn hIn, hSplit]
  rcases exists_path_of_readOptionalQuery hQuery with ⟨rfl, rfl⟩ | ⟨path, query, hPath, rfl, rfl⟩
  · exact ⟨_, .plain hWritten hClauses, by simp⟩
  · exact ⟨_, .querying hWritten hPath hClauses, by simp⟩

/-! ## Pipes -/

/-- A pipe between these tokens of a header can stand there: a whole source is before it and a path after it, and there
is no other. -/
structure PipeFits (settings : QuerySettings) (before after : List Token) : Prop where
  source : ∃ name source ts, Expression.WrittenAs source ts ∧ before = .word name :: .word "in" :: ts
  path : ∃ path query rest, Query.compile settings.functions path = .ok query ∧ after = .string path :: rest
  only : .pipe ∉ after

theorem LoopHeader.WrittenAs.pipeFits {settings : QuerySettings} {header : LoopHeader} {parts : List (List Token)}
    (h : header.WrittenAs settings parts) {before after : List Token} (hPipe : parts.flatten = before ++ .pipe :: after) :
    PipeFits settings before after := by
  cases h with
  | @plain name source ts clauses parts hSource hClauses =>
    have hNone : .pipe ∉ ([.word name] :: [.word "in"] :: ts :: parts).flatten := by
      simp [hSource.pipe_notMem, pipe_notMem_clauses hClauses]
    rw [hPipe] at hNone
    exact absurd (List.mem_append_right before List.mem_cons_self) hNone
  | @querying name path source query ts clauses parts hSource hPath hClauses =>
    have hBefore : .pipe ∉ .word name :: .word "in" :: ts := by
      simp [hSource.pipe_notMem]
    have hAfter : .pipe ∉ .string path :: parts.flatten := by
      simp [pipe_notMem_clauses hClauses]
    have hSplit : (.word name :: .word "in" :: ts) ++ .pipe :: .string path :: parts.flatten = before ++ .pipe :: after := by
      simpa using hPipe
    -- The pipe of the path is the only one, so the two ways to cut the tokens at a pipe are the same.
    obtain ⟨rfl, -, rfl⟩ := (List.append_cons_inj_of_notMem hBefore hAfter).1 hSplit
    exact ⟨⟨name, source, ts, hSource, rfl⟩, ⟨path, query, _, hPath, rfl⟩, hAfter⟩

/-! ## Printing -/

/-- An expression whose text is read as that expression. -/
def Expression.ReadsBack (e : Expression) : Prop := ∃ ts, tokens e.text = .ok ts ∧ readExpression ts = .ok (e, [])

def Clause.ReadsBack : Clause → Prop
  | .comma | .reversed => True
  | .limit e | .offset e => e.ReadsBack

def Clause.text : Clause → String
  | .comma => ","
  | .reversed => "reversed"
  | .limit e => "limit: " ++ e.text
  | .offset e => "offset: " ++ e.text

def clausesText : List Clause → String
  | [] => ""
  | clause :: clauses => " " ++ clause.text ++ clausesText clauses

def headerText (name : String) (source : Expression) (path : Option String) (clauses : List Clause) : String :=
  let query := match path with
    | none => ""
    | some path => " | " ++ inQuotes path
  name ++ " in " ++ source.text ++ query ++ clausesText clauses

theorem Expression.ReadsBack.exists_writtenAs {e : Expression} (h : e.ReadsBack) :
    ∃ ts, e.WrittenAs ts ∧ e.text.toList ∈ texts ts := by
  obtain ⟨ts, hTokens, hRead⟩ := h
  exact ⟨ts, Expression.writtenAs_iff.2 hRead, tokens_eq_ok_iff.1 hTokens⟩

theorem word_mem_texts {w : String} (h : IsWord w.toList) : w.toList ∈ texts [.word w] :=
  mem_texts_of_spelling ⟨h, String.ofList_toList⟩

/-- A word, a colon and a count after some part of a header. -/
theorem count_mem_spaced {w : String} (hWord : IsWord w.toList) {group ts : List Token} {parts : List (List Token)}
    {s rest : List Char} (hs : s ∈ texts group) (hRest : rest ∈ spaced (ts :: parts)) :
    s ++ ' ' :: (w.toList ++ ':' :: ' ' :: rest) ∈ spaced (group :: [.word w] :: [.colon] :: ts :: parts) := by
  have hColon : [':'] ∈ texts [.colon] := mem_texts_of_spelling rfl
  have hNone : [] ∈ room [.word w] [.colon] := nil_mem_room (by simp [Token.touches, Token.isNumber, Token.isWord])
  have hCount : [':'] ++ ([' '] ++ rest) ∈ spaced ([.colon] :: ts :: parts) :=
    append_mem_spaced hColon (space_mem_room _ _) hRest
  exact append_mem_spaced hs (space_mem_room _ _) (append_mem_spaced (word_mem_texts hWord) hNone hCount)

/-- Clauses with a space before each of them can follow any part of a header. -/
theorem exists_parts_of_clauses {clauses : List Clause} (h : ∀ clause ∈ clauses, clause.ReadsBack) :
    ∃ parts, InTurn Clause.WrittenAs clauses parts ∧
      ∀ group, ∀ s ∈ texts group, s ++ (clausesText clauses).toList ∈ spaced (group :: parts) := by
  induction clauses with
  | nil =>
    refine ⟨[], .nil, fun group s hs => ?_⟩
    rw [clausesText, String.toList_empty, List.append_nil]
    exact hs
  | cons clause clauses ih =>
    obtain ⟨hFirst, hRest⟩ := List.forall_mem_cons.1 h
    obtain ⟨parts, hTurn, hParts⟩ := ih hRest
    cases clause with
    | comma =>
      refine ⟨_, .cons .comma hTurn, fun group s hs => ?_⟩
      have hComma : [','] ∈ texts [.comma] := mem_texts_of_spelling rfl
      simpa [clausesText, Clause.text] using append_mem_spaced hs (space_mem_room _ _) (hParts _ _ hComma)
    | reversed =>
      refine ⟨_, .cons .reversed hTurn, fun group s hs => ?_⟩
      have hReversed : "reversed".toList ∈ texts [.word "reversed"] := word_mem_texts (by decide)
      simpa [clausesText, Clause.text] using append_mem_spaced hs (space_mem_room _ _) (hParts _ _ hReversed)
    | limit e =>
      obtain ⟨ts, hWritten, hText⟩ := Expression.ReadsBack.exists_writtenAs hFirst
      refine ⟨_, .cons (.limit hWritten) hTurn, fun group s hs => ?_⟩
      have hLimit : IsWord "limit".toList := by decide
      simpa [clausesText, Clause.text] using count_mem_spaced hLimit hs (hParts ts _ hText)
    | offset e =>
      obtain ⟨ts, hWritten, hText⟩ := Expression.ReadsBack.exists_writtenAs hFirst
      refine ⟨_, .cons (.offset hWritten) hTurn, fun group s hs => ?_⟩
      have hOffset : IsWord "offset".toList := by decide
      simpa [clausesText, Clause.text] using count_mem_spaced hOffset hs (hParts ts _ hText)

/-- What a path stands for in a header, if there is one. -/
inductive Compiles (settings : QuerySettings) : Option String → Option LoopQuery → Prop where
  | none : Compiles settings none none
  | some {path : String} {query : Query.Compiled} (h : Query.compile settings.functions path = .ok query) :
    Compiles settings (some path) (some ⟨query, settings.policy⟩)

theorem LoopHeader.exists_writtenAs_of_headerText {settings : QuerySettings} {name : String} {source : Expression}
    {path : Option String} {query : Option LoopQuery} {clauses : List Clause} (hName : IsWord name.toList)
    (hSource : source.ReadsBack) (hPath : Compiles settings path query) (hQuotes : ∀ p ∈ path, AvoidsQuote p)
    (hClauses : ∀ clause ∈ clauses, clause.ReadsBack) :
    ∃ parts, LoopHeader.WrittenAs settings ⟨name, source, query, .ofClauses clauses⟩ parts ∧
      (headerText name source path clauses).toList ∈ spaced parts := by
  obtain ⟨ts, hWritten, hText⟩ := hSource.exists_writtenAs
  obtain ⟨parts, hTurn, hParts⟩ := exists_parts_of_clauses hClauses
  have hIn : "in".toList ∈ texts [.word "in"] := word_mem_texts (by decide)
  have hStart : ∀ rest parts, source.text.toList ++ rest ∈ spaced (ts :: parts) →
      name.toList ++ ' ' :: 'i' :: 'n' :: ' ' :: (source.text.toList ++ rest) ∈
        spaced ([.word name] :: [.word "in"] :: ts :: parts) := by
    intro rest parts hRest
    have hAfterName := append_mem_spaced hIn (space_mem_room _ _) hRest
    exact append_mem_spaced (word_mem_texts hName) (space_mem_room _ _) hAfterName
  cases hPath with
  | none =>
    refine ⟨_, .plain hWritten hTurn, ?_⟩
    simpa [headerText] using hStart _ _ (hParts ts _ hText)
  | @some path query hCompile =>
    refine ⟨_, .querying hWritten hCompile hTurn, ?_⟩
    have hPipe : ['|'] ∈ texts [.pipe] := mem_texts_of_spelling rfl
    have hString : (inQuotes path).toList ∈ texts [.string path] := mem_texts_of_spelling (inQuotes_mem (hQuotes path rfl))
    have hAfterPipe := append_mem_spaced hPipe (space_mem_room _ _) (hParts _ _ hString)
    have hAfterSource := append_mem_spaced hText (space_mem_room _ _) hAfterPipe
    simpa [headerText] using hStart _ _ hAfterSource

/-! ## The grammar -/

/-- The headers of a query loop are those with a name, the word `in`, a source, perhaps a pipe with a path that can be
compiled, and clauses. Such a header is read from what is printed for its parts, and from every other text of them; every
text that is accepted has these parts. Of the clauses the last limit and the last offset count, and `reversed` if it stands
there at all, so clauses of different kinds can change places. A pipe anywhere else, a second one, and one without a quoted
path that can be compiled make the header malformed. -/
theorem queryLoop_header_grammar (settings : QuerySettings) :
    (∀ name source path query clauses, IsWord name.toList → Expression.ReadsBack source →
      Compiles settings path query → (∀ p ∈ path, AvoidsQuote p) → (∀ clause ∈ clauses, Clause.ReadsBack clause) →
      LoopHeader.ofText (.queryLoop settings) (headerText name source path clauses) =
        .ok ⟨name, source, query, .ofClauses clauses⟩) ∧
    (∀ header parts, LoopHeader.WrittenAs settings header parts → ∀ text : String, text.toList ∈ spaced parts →
      LoopHeader.ofText (.queryLoop settings) text = .ok header) ∧
    (∀ text header, LoopHeader.ofText (.queryLoop settings) text = .ok header →
      ∃ parts, LoopHeader.WrittenAs settings header parts ∧ tokens text = .ok parts.flatten) ∧
    (∀ clauses clauses' : List Clause,
      (∀ kind, kind ≠ .comma → clauses.filter (·.kind = kind) = clauses'.filter (·.kind = kind)) →
      Modifiers.ofClauses clauses = .ofClauses clauses') ∧
    (∀ text before after, tokens text = .ok (before ++ .pipe :: after) → ¬PipeFits settings before after →
      ∃ cause, LoopHeader.ofText (.queryLoop settings) text = .error cause) := by
  have hRead : ∀ header parts, LoopHeader.WrittenAs settings header parts → ∀ text : String, text.toList ∈ spaced parts →
      LoopHeader.ofText (.queryLoop settings) text = .ok header := by
    intro header parts hWritten text hText
    have hTokens : tokens text = .ok parts.flatten := tokens_eq_ok_iff.2 (lexes_of_mem_spaced hWritten.ne_nil hText)
    rw [LoopHeader.ofText, hTokens, ok_bind, hWritten.read]
  have hAccepted : ∀ text header, LoopHeader.ofText (.queryLoop settings) text = .ok header →
      ∃ parts, LoopHeader.WrittenAs settings header parts ∧ tokens text = .ok parts.flatten := by
    intro text header h
    obtain ⟨ts, hTokens, h⟩ := bind_eq_ok.1 h
    obtain ⟨parts, hWritten, rfl⟩ := LoopHeader.exists_writtenAs_of_ofTokens h
    exact ⟨parts, hWritten, hTokens⟩
  refine ⟨?_, hRead, hAccepted, fun _ _ => Modifiers.ofClauses_congr, ?_⟩
  · intro name source path query clauses hName hSource hPath hQuotes hClauses
    obtain ⟨parts, hWritten, hText⟩ :=
      LoopHeader.exists_writtenAs_of_headerText hName hSource hPath hQuotes hClauses
    exact hRead _ parts hWritten _ hText
  · intro text before after hTokens hPipe
    cases hHeader : LoopHeader.ofText (.queryLoop settings) text with
    | error cause => exact ⟨cause, rfl⟩
    | ok header =>
      obtain ⟨parts, hWritten, hParts⟩ := hAccepted text header hHeader
      rw [hTokens] at hParts
      exact absurd (hWritten.pipeFits (Except.ok.inj hParts).symm) hPipe

/-- The last three members first. -/
def lastMembers : List Clause := [.reversed, .limit (.literal (.ofNat 2)), .comma, .limit (.literal (.ofNat 3))]

theorem queryLoop_header_grammar_lastMembers :
    ∃ query, Query.compile Query.standardFunctions "$.members" = .ok query ∧
      LoopHeader.ofText (.queryLoop (.standard .raise))
          "row in clubs[-1] | '$.members' reversed limit: 2 , limit: 3" =
        .ok ⟨"row", .reference "clubs" [.index (-1)], some ⟨query, .raise⟩,
          ⟨some (.literal (.ofNat 3)), none, true⟩⟩ := by
  obtain ⟨query, hCompile⟩ : ∃ query, Query.compile Query.standardFunctions "$.members" = .ok query := ⟨_, rfl⟩
  have hSource : (Expression.reference "clubs" [.index (-1)]).ReadsBack := ⟨_, rfl, rfl⟩
  have hClauses : ∀ clause ∈ lastMembers, clause.ReadsBack := by
    have hTwo : (Expression.literal (.ofNat 2)).ReadsBack := ⟨_, rfl, rfl⟩
    have hThree : (Expression.literal (.ofNat 3)).ReadsBack := ⟨_, rfl, rfl⟩
    simp [lastMembers, Clause.ReadsBack, hTwo, hThree]
  have hQuotes : ∀ p ∈ some "$.members", AvoidsQuote p := by
    rintro _ ⟨⟩
    exact .inl (by decide)
  have hText : headerText "row" (.reference "clubs" [.index (-1)]) (some "$.members") lastMembers =
      "row in clubs[-1] | '$.members' reversed limit: 2 , limit: 3" := by decide
  refine ⟨query, hCompile, ?_⟩
  rw [← hText]
  exact (queryLoop_header_grammar (.standard .raise)).1 "row" _ _ _ _ (by decide) hSource (.some hCompile) hQuotes hClauses

end TemplateQuery.Template
