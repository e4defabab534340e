import TemplateQuery.Proofs.Template.Expressions
import TemplateQuery.Proofs.Template.Spacing

/-!
# Texts of pipelines

A pipeline can be written with any white space between its tokens and, for the keys of its paths and the quotes of its
strings, in several ways. All these texts are read as that pipeline. There are such texts for every pipeline of words,
of strings without one of the quotes, of 64-bit integers and of truth values and nulls.
-/
namespace TemplateQuery.Template

/-! ## Writing -/

inductive ArgumentsWrittenAs : List Expression → List Token → Prop where
  | last {e : Expression} {ts : List Token} (h : e.WrittenAs ts) : ArgumentsWrittenAs [e] ts
  | cons {e : Expression} {es : List Expression} {ts us : List Token} (h : e.WrittenAs ts)
    (hRest : ArgumentsWrittenAs es us) : ArgumentsWrittenAs (e :: es) (ts ++ .comma :: us)

inductive FilterCall.WrittenAs : FilterCall → List Token → Prop where
  | bare (name : String) : WrittenAs ⟨name, []⟩ [.pipe, .word name]
  | applied {name : String} {arguments : List Expression} {ts : List Token} (h : ArgumentsWrittenAs arguments ts) :
    WrittenAs ⟨name, arguments⟩ (.pipe :: .word name :: .colon :: ts)

inductive Pipeline.WrittenAs : Pipeline → List Token → Prop where
  | mk {source : Expression} {calls : List FilterCall} {ts us : List Token} (hSource : source.WrittenAs ts)
    (hCalls : InTurn FilterCall.WrittenAs calls us) : WrittenAs ⟨source, calls⟩ (ts ++ us)

/-- The texts of a pipeline, with white space between any two tokens and always between words and numbers. -/
def Pipeline.spelling (p : Pipeline) : Language Char := {s | ∃ ts, p.WrittenAs ts ∧ s ∈ spaced (ts.map ([·]))}

/-! ## Reading -/

theorem ArgumentsWrittenAs.length_le {es : List Expression} {ts : List Token} (h : ArgumentsWrittenAs es ts) :
    es.length ≤ ts.length := by
  induction h with
  | last h => exact List.length_pos_iff.2 h.ne_nil
  | cons h _ ih =>
    rw [List.length_append, List.length_cons, List.length_cons]
    omega

/-- What can follow a call: nothing, or the pipe of the next one. -/
def EndsCall (rest : List Token) : Prop := rest = [] ∨ ∃ after, rest = .pipe :: after

theorem EndsCall.endsPath {rest : List Token} (h : EndsCall rest) : EndsPath rest := by
  rcases h with rfl | ⟨after, rfl⟩
  · exact endsPath_nil
  · exact endsPath_cons (by decide) (by decide) after

theorem readArguments_writtenAs {es : List Expression} {ts rest : List Token} (h : ArgumentsWrittenAs es ts)
    (hEnd : EndsCall rest) {fuel : Nat} (hFuel : es.length ≤ fuel) : readArguments fuel (ts ++ rest) = .ok (es, rest) := by
  induction h generalizing fuel with
  | last h =>
    obtain ⟨fuel, rfl⟩ := Nat.exists_eq_add_of_le' hFuel
    rw [List.length_singleton, readArguments, h.read hEnd.endsPath]
    rcases hEnd with rfl | ⟨after, rfl⟩ <;> rfl
  | @cons e es ts us h _ ih =>
    obtain ⟨fuel, rfl⟩ := Nat.exists_eq_add_of_le' hFuel
    have hComma : EndsPath (.comma :: (us ++ rest)) := endsPath_cons (by decide) (by decide) _
    have hMore : readArguments (fuel + es.length) (us ++ rest) = .ok (es, rest) := ih (Nat.le_add_left _ _)
    rw [List.append_assoc, List.cons_append, List.length_cons, ← Nat.add_assoc, readArguments, h.read hComma]
    simp only [ok_bind, hMore, pure_eq_ok]

theorem readCall_writtenAs {call : FilterCall} {ts rest : List Token} (h : call.WrittenAs (.pipe :: ts))
    (hEnd : EndsCall rest) : readCall (ts ++ rest) = .ok (call, rest) := by
  cases h with
  | bare name => rcases hEnd with rfl | ⟨after, rfl⟩ <;> rfl
  | @applied name arguments ts hArguments =>
    have hFuel : arguments.length ≤ (ts ++ rest).length + 1 := by
      have hLength := hArguments.length_le
      rw [List.length_append]
      omega
    have hRead : readArguments ((ts ++ rest).length + 1) (ts ++ rest) = .ok (arguments, rest) :=
      readArguments_writtenAs hArguments hEnd hFuel
    simp only [readCall, expectWord, List.cons_append, ok_bind, hRead, pure_eq_ok]

theorem FilterCall.WrittenAs.starts {call : FilterCall} {ts : List Token} (h : call.WrittenAs ts) :
    ∃ us, ts = .pipe :: us := by
  cases h <;> exact ⟨_, rfl⟩

theorem endsCall_inTurn {calls : List FilterCall} {ts : List Token} (h : InTurn FilterCall.WrittenAs calls ts) :
    EndsCall ts := by
  cases h with
  | nil => exact .inl rfl
  | cons hCall _ =>
    obtain ⟨us, rfl⟩ := hCall.starts
    exact .inr ⟨_, rfl⟩

theorem readCalls_inTurn {calls : List FilterCall} {ts : List Token} (h : InTurn FilterCall.WrittenAs calls ts)
    {fuel : Nat} (hFuel : ts.length ≤ fuel) : readCalls fuel ts = .ok calls := by
  induction h generalizing fuel with
  | nil => cases fuel <;> rfl
  | @cons call calls ts us hCall hCalls ih =>
    obtain ⟨ts, rfl⟩ := hCall.starts
    rw [List.cons_append, List.length_cons, List.length_append] at hFuel
    obtain ⟨fuel, rfl⟩ := Nat.exists_eq_add_of_le' hFuel
    have hMore : readCalls (fuel + (ts.length + us.length)) us = .ok calls := ih (by omega)
    rw [List.cons_append, ← Nat.add_assoc, readCalls, readCall_writtenAs hCall (endsCall_inTurn hCalls)]
    simp only [ok_bind, hMore, pure_eq_ok]

theorem Pipeline.WrittenAs.read {p : Pipeline} {ts : List Token} (h : p.WrittenAs ts) : Pipeline.ofTokens ts = .ok p := by
  cases h with
  | @mk source calls ts us hSource hCalls =>
    rw [Pipeline.ofTokens, hSource.read (endsCall_inTurn hCalls).endsPath]
    simp only [ok_bind, readCalls_inTurn hCalls (Nat.le_refl _), pure_eq_ok]

/-! ## Pipelines that can be written -/

def Token.Printable : Token → Prop
  | .word w => IsWord w.toList
  | .string v => AvoidsQuote v
  | .int i => fitsInt64 i = true
  | .float _ => False
  | .dot | .openBracket | .closeBracket | .pipe | .colon | .comma => True

def Step.Printable : Step → Prop
  | .key name => AvoidsQuote name
  | .index i => fitsInt64 i = true

def Expression.Printable : Expression → Prop
  | .literal (.string s) => AvoidsQuote s
  | .literal (.number (.int i)) => fitsInt64 i = true
  | .literal (.bool _) | .literal .null => True
  | .literal _ => False
  | .reference name path => IsWord name.toList ∧ name ∉ constantWords ∧ ∀ step ∈ path, step.Printable

structure FilterCall.Printable (call : FilterCall) : Prop where
  name : IsWord call.name.toList
  arguments : ∀ e ∈ call.arguments, e.Printable

structure Pipeline.Printable (p : Pipeline) : Prop where
  source : p.source.Printable
  calls : ∀ call ∈ p.calls, call.Printable

theorem Token.Printable.exists_spelling {t : Token} (h : t.Printable) : ∃ s, s ∈ t.spelling := by
  cases t with
  | word w => exact ⟨w.toList, h, String.ofList_toList⟩
  | string v => exact ⟨(inQuotes v).toList, inQuotes_mem h⟩
  | int i => exact ⟨Query.writeInt i, h, Query.writeInt_mem i⟩
  | float _ => exact h.elim
  | dot | openBracket | closeBracket | pipe | colon | comma => exact ⟨_, Query.mem_word.2 rfl⟩

theorem Step.Printable.exists_writtenAs {step : Step} (h : step.Printable) :
    ∃ ts, step.WrittenAs ts ∧ ∀ t ∈ ts, t.Printable := by
  cases step with
  | key name => exact ⟨_, .quoted name, by simpa [Token.Printable, Step.Printable] using h⟩
  | index i => exact ⟨_, .position i, by simpa [Token.Printable, Step.Printable] using h⟩

theorem isWord_of_mem_constantWords : ∀ w ∈ constantWords, IsWord w.toList := Query.forall_mem_of_all (by decide)

theorem Expression.Printable.exists_writtenAs {e : Expression} (h : e.Printable) :
    ∃ ts, e.WrittenAs ts ∧ ∀ t ∈ ts, t.Printable := by
  match e, h with
  | .literal (.string s), h => exact ⟨_, .string s, List.forall_mem_singleton.2 h⟩
  | .literal (.number (.int i)), h => exact ⟨_, .int i, List.forall_mem_singleton.2 h⟩
  | .literal (.bool true), _ => exact ⟨_, .true, List.forall_mem_singleton.2 (isWord_of_mem_constantWords _ (by decide))⟩
  | .literal (.bool false), _ => exact ⟨_, .false, List.forall_mem_singleton.2 (isWord_of_mem_constantWords _ (by decide))⟩
  | .literal .null, _ => exact ⟨_, .nil, List.forall_mem_singleton.2 (isWord_of_mem_constantWords _ (by decide))⟩
  | .reference name path, ⟨hName, hConstant, hPath⟩ =>
    obtain ⟨ts, hts, hPrintable⟩ := InTurn.exists_forall_mem fun step hStep => (hPath step hStep).exists_writtenAs
    exact ⟨_, .reference hConstant hts, List.forall_mem_cons.2 ⟨hName, hPrintable⟩⟩

theorem exists_argumentsWrittenAs {es : List Expression} (hne : es ≠ []) (h : ∀ e ∈ es, e.Printable) :
    ∃ ts, ArgumentsWrittenAs es ts ∧ ∀ t ∈ ts, t.Printable := by
  induction es with
  | nil => exact absurd rfl hne
  | cons e es ih =>
    obtain ⟨he, hes⟩ := List.forall_mem_cons.1 h
    obtain ⟨ts, hWritten, hPrintable⟩ := he.exists_writtenAs
    by_cases hLast : es = []
    · subst hLast
      exact ⟨ts, .last hWritten, hPrintable⟩
    · obtain ⟨us, hMore, hMorePrintable⟩ := ih hLast hes
      refine ⟨_, .cons hWritten hMore, List.forall_mem_append.2 ⟨hPrintable, ?_⟩⟩
      exact List.forall_mem_cons.2 ⟨trivial, hMorePrintable⟩

theorem FilterCall.Printable.exists_writtenAs {call : FilterCall} (h : call.Printable) :
    ∃ ts, call.WrittenAs ts ∧ ∀ t ∈ ts, t.Printable := by
  obtain ⟨name, arguments⟩ := call
  by_cases hNone : arguments = []
  · subst hNone
    exact ⟨_, .bare name, by simpa [Token.Printable] using h.name⟩
  · obtain ⟨ts, hArguments, hPrintable⟩ := exists_argumentsWrittenAs hNone h.arguments
    refine ⟨_, .applied hArguments, ?_⟩
    simpa [Token.Printable] using ⟨h.name, hPrintable⟩

theorem Pipeline.Printable.exists_writtenAs {p : Pipeline} (h : p.Printable) :
    ∃ ts, p.WrittenAs ts ∧ ∀ t ∈ ts, t.Printable := by
  obtain ⟨ts, hSource, hts⟩ := h.source.exists_writtenAs
  obtain ⟨us, hCalls, hus⟩ := InTurn.exists_forall_mem fun call hCall => (h.calls call hCall).exists_writtenAs
  exact ⟨ts ++ us, .mk hSource hCalls, List.forall_mem_append.2 ⟨hts, hus⟩⟩

theorem Pipeline.Printable.exists_mem_spelling {p : Pipeline} (h : p.Printable) : ∃ s, s ∈ p.spelling := by
  obtain ⟨ts, hWritten, hPrintable⟩ := h.exists_writtenAs
  have hTexts : ∀ group ∈ ts.map ([·]), ∃ s, s ∈ texts group := by
    simp only [List.forall_mem_map]
    intro t ht
    obtain ⟨s, hs⟩ := (hPrintable t ht).exists_spelling
    exact ⟨s, mem_texts_of_spelling hs⟩
  obtain ⟨s, hs⟩ := exists_mem_spaced hTexts
  exact ⟨s, ts, hWritten, hs⟩

/-! ## Reading back -/

/-- Every text of a pipeline is read as that pipeline, and there is such a text if its names are words, its strings and keys
have no more than one kind of quote in them, its numbers are 64-bit integers and its other literals truth values or null. -/
theorem pipeline_is_read_back (p : Pipeline) :
    (p.Printable → ∃ s, s ∈ p.spelling) ∧
      ∀ source : String, source.toList ∈ p.spelling → Pipeline.ofText source = .ok p := by
  refine ⟨Pipeline.Printable.exists_mem_spelling, ?_⟩
  rintro source ⟨ts, hWritten, hs⟩
  have hGroups : ∀ group ∈ ts.map ([·]), group ≠ [] := by
    simp
  have hLexes : Lexes source.toList (ts.map ([·])).flatten := lexes_of_mem_spaced hGroups hs
  rw [← List.flatMap_def, List.flatMap_singleton'] at hLexes
  rw [Pipeline.ofText, tokens_eq_ok_iff.2 hLexes, ok_bind, hWritten.read]

/-- The first name of the last club, joined and in capitals. -/
def joinedNames : Pipeline :=
  ⟨.reference "clubs" [.key "full names", .index (-1), .key "first"],
    [⟨"join", [.literal (.string ", "), .reference "mark" []]⟩, ⟨"upcase", []⟩]⟩

theorem pipeline_is_read_back_joinedNames :
    joinedNames.Printable ∧
    (∃ source : String, source.toList ∈ joinedNames.spelling ∧ Pipeline.ofText source = .ok joinedNames) ∧
    Pipeline.ofText "clubs['full names'] [ -1 ].first|join:', ' ,mark | upcase" = .ok joinedNames := by
  have hSource : joinedNames.source.Printable := by
    refine ⟨by decide, by decide, ?_⟩
    simp [Step.Printable, AvoidsQuote, fitsInt64, twoPow]
  have hJoin : FilterCall.Printable ⟨"join", [.literal (.string ", "), .reference "mark" []]⟩ := by
    refine ⟨by decide, List.forall_mem_cons.2 ⟨.inl (by decide), ?_⟩⟩
    exact List.forall_mem_singleton.2 ⟨by decide, by decide, List.forall_mem_nil _⟩
  have hUpcase : FilterCall.Printable ⟨"upcase", []⟩ := ⟨by decide, List.forall_mem_nil _⟩
  have hPrintable : joinedNames.Printable :=
    ⟨hSource, List.forall_mem_cons.2 ⟨hJoin, List.forall_mem_singleton.2 hUpcase⟩⟩
  obtain ⟨hTexts, hRead⟩ := pipeline_is_read_back joinedNames
  obtain ⟨s, hs⟩ := hTexts hPrintable
  refine ⟨hPrintable, ⟨String.ofList s, ?_, hRead _ ?_⟩, rfl⟩ <;> rwa [String.toList_ofList]

end TemplateQuery.Template
