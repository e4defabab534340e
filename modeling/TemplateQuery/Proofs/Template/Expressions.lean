import TemplateQuery.Proofs.Steps
import TemplateQuery.Template.Expression

/-!
# Tokens of expressions

The tokens that an expression can be written with. A key of a path is written with a point if it is a word, and with
brackets and quotes always. Reading takes the longest path that there is, so what an expression is written with is read as
that expression whatever follows, as long as the path does not go on, and nothing else is read as an expression.
-/
namespace TemplateQuery.Template

/-- Things one after the other, with what each of them is written as. -/
inductive InTurn {α β : Type} (WrittenAs : α → List β → Prop) : List α → List β → Prop where
  | nil : InTurn WrittenAs [] []
  | cons {x : α} {xs : List α} {ts us : List β} (hFirst : WrittenAs x ts) (hRest : InTurn WrittenAs xs us) :
    InTurn WrittenAs (x :: xs) (ts ++ us)

/-- What holds of all that single things are written as holds of all that they are written as in turn. -/
theorem InTurn.forall_mem {α β : Type} {WrittenAs : α → List β → Prop} {p : β → Prop} {xs : List α} {ts : List β}
    (h : InTurn WrittenAs xs ts) (hp : ∀ x us, WrittenAs x us → ∀ t ∈ us, p t) : ∀ t ∈ ts, p t := by
  induction h with
  | nil => exact List.forall_mem_nil _
  | cons hFirst _ ih => exact List.forall_mem_append.2 ⟨hp _ _ hFirst, ih⟩

/-- Things can be written in turn, with a property of all that they are written as, if each of them can. -/
theorem InTurn.exists_forall_mem {α β : Type} {WrittenAs : α → List β → Prop} {p : β → Prop} {xs : List α}
    (h : ∀ x ∈ xs, ∃ ts, WrittenAs x ts ∧ ∀ t ∈ ts, p t) : ∃ ts, InTurn WrittenAs xs ts ∧ ∀ t ∈ ts, p t := by
  induction xs with
  | nil => exact ⟨[], .nil, List.forall_mem_nil _⟩
  | cons x xs ih =>
    obtain ⟨⟨ts, hFirst, hts⟩, hxs⟩ := List.forall_mem_cons.1 h
    obtain ⟨us, hRest, hus⟩ := ih hxs
    exact ⟨ts ++ us, .cons hFirst hRest, List.forall_mem_append.2 ⟨hts, hus⟩⟩

inductive Step.WrittenAs : Step → List Token → Prop where
  | name (w : String) : WrittenAs (.key w) [.dot, .word w]
  | quoted (s : String) : WrittenAs (.key s) [.openBracket, .string s, .closeBracket]
  | position (i : Int) : WrittenAs (.index i) [.openBracket, .int i, .closeBracket]

/-- The words that stand for values and not for variables. -/
def constantWords : List String := ["true", "false", "nil", "null"]

inductive Expression.WrittenAs : Expression → List Token → Prop where
  | string (s : String) : WrittenAs (.literal (.string s)) [.string s]
  | int (i : Int) : WrittenAs (.literal (.ofInt i)) [.int i]
  | float (x : Binary64) : WrittenAs (.literal (.ofBinary64 x)) [.float x]
  | true : WrittenAs (.literal (.bool true)) [.word "true"]
  | false : WrittenAs (.literal (.bool false)) [.word "false"]
  | nil : WrittenAs (.literal .null) [.word "nil"]
  | null : WrittenAs (.literal .null) [.word "null"]
  | reference {name : String} {path : List Step} {ts : List Token} (hName : name ∉ constantWords)
    (hPath : InTurn Step.WrittenAs path ts) : WrittenAs (.reference name path) (.word name :: ts)

/-- Tokens that do not go on with a path before them. -/
def EndsPath (rest : List Token) : Prop := ∀ t ∈ rest.head?, t ≠ .dot ∧ t ≠ .openBracket

theorem endsPath_nil : EndsPath [] := nofun

theorem endsPath_cons {t : Token} (hDot : t ≠ .dot) (hBracket : t ≠ .openBracket) (rest : List Token) :
    EndsPath (t :: rest) := by
  rintro _ ⟨⟩
  exact ⟨hDot, hBracket⟩

/-! ## Reading what is written -/

theorem readPath_endsPath {rest : List Token} (h : EndsPath rest) : readPath rest = .ok ([], rest) := by
  cases rest with
  | nil => rfl
  | cons t rest =>
    obtain ⟨hDot, hBracket⟩ := h t rfl
    cases t with
    | dot => exact absurd rfl hDot
    | openBracket => exact absurd rfl hBracket
    | word _ | string _ | int _ | float _ | closeBracket | pipe | colon | comma => rfl

theorem readPath_step {step : Step} {ts : List Token} (h : step.WrittenAs ts) (rest : List Token) :
    readPath (ts ++ rest) = do
      let (path, rest) ← readPath rest
      return (step :: path, rest) := by
  cases h <;> rfl

theorem readPath_inTurn {path : List Step} {ts rest : List Token} (h : InTurn Step.WrittenAs path ts)
    (hEnd : EndsPath rest) : readPath (ts ++ rest) = .ok (path, rest) := by
  induction h with
  | nil => exact readPath_endsPath hEnd
  | cons hStep _ ih =>
    rw [List.append_assoc, readPath_step hStep, ih]
    rfl

theorem constant?_eq_none_iff {w : String} : constant? w = none ↔ w ∉ constantWords := by
  simp only [constant?, constantWords, List.mem_cons, List.not_mem_nil, or_false, not_or]
  by_cases hTrue : w = "true"
  · simp [hTrue]
  by_cases hFalse : w = "false"
  · simp [hFalse]
  · simp [hTrue, hFalse]

theorem Expression.WrittenAs.read {e : Expression} {ts rest : List Token} (h : e.WrittenAs ts) (hEnd : EndsPath rest) :
    readExpression (ts ++ rest) = .ok (e, rest) := by
  cases h with
  | string s | int i | float x | true | false | nil | null => rfl
  | @reference name path ts hName hPath =>
    rw [List.cons_append, readExpression, constant?_eq_none_iff.2 hName]
    simp only [readPath_inTurn hPath hEnd]
    rfl

theorem Expression.WrittenAs.ne_nil {e : Expression} {ts : List Token} (h : e.WrittenAs ts) : ts ≠ [] := by
  cases h <;> exact List.cons_ne_nil _ _

theorem Expression.WrittenAs.pipe_notMem {e : Expression} {ts : List Token} (h : e.WrittenAs ts) : .pipe ∉ ts := by
  cases h with
  | string _ | int _ | float _ | true | false | nil | null => simp
  | reference _ hPath =>
    have hStep : ∀ (step : Step) us, step.WrittenAs us → ∀ t ∈ us, t ≠ .pipe := by
      intro step us hStep
      cases hStep <;> simp
    intro hMem
    rcases List.mem_cons.1 hMem with hWord | hMem
    · cases hWord
    · exact hPath.forall_mem hStep _ hMem rfl

/-! ## Writing what is read -/

theorem exists_writtenAs_of_readPath {ts rest : List Token} {path : List Step} (h : readPath ts = .ok (path, rest)) :
    ∃ us, ts = us ++ rest ∧ InTurn Step.WrittenAs path us := by
  fun_induction readPath ts generalizing path with
  | case1 w after ih =>
    obtain ⟨⟨path, rest⟩, hPath, h⟩ := bind_eq_ok.1 h
    cases h
    obtain ⟨us, rfl, hWritten⟩ := ih hPath
    exact ⟨_, rfl, .cons (.name w) hWritten⟩
  | case3 s after ih =>
    obtain ⟨⟨path, rest⟩, hPath, h⟩ := bind_eq_ok.1 h
    cases h
    obtain ⟨us, rfl, hWritten⟩ := ih hPath
    exact ⟨_, rfl, .cons (.quoted s) hWritten⟩
  | case4 i after ih =>
    obtain ⟨⟨path, rest⟩, hPath, h⟩ := bind_eq_ok.1 h
    cases h
    obtain ⟨us, rfl, hWritten⟩ := ih hPath
    exact ⟨_, rfl, .cons (.position i) hWritten⟩
  | case2 | case5 | case6 | case7 => cases h
  | case8 =>
    cases h
    exact ⟨[], rfl, .nil⟩

theorem exists_writtenAs_of_constant? {w : String} {value : Json} (h : constant? w = some value) :
    (Expression.literal value).WrittenAs [.word w] := by
  unfold constant? at h
  split at h
  · rename_i hw
    cases h
    exact hw ▸ .true
  split at h
  · rename_i hw
    cases h
    exact hw ▸ .false
  split at h
  · rename_i hw
    cases h
    rcases hw with rfl | rfl
    · exact .nil
    · exact .null
  · cases h

theorem exists_writtenAs_of_readExpression {ts rest : List Token} {e : Expression}
    (h : readExpression ts = .ok (e, rest)) : ∃ us, ts = us ++ rest ∧ e.WrittenAs us := by
  unfold readExpression at h
  split at h
  · cases h
    exact ⟨_, rfl, .string _⟩
  · cases h
    exact ⟨_, rfl, .int _⟩
  · cases h
    exact ⟨_, rfl, .float _⟩
  · rename_i w after
    cases hConstant : constant? w with
    | some value =>
      rw [hConstant] at h
      cases h
      exact ⟨_, rfl, exists_writtenAs_of_constant? hConstant⟩
    | none =>
      rw [hConstant] at h
      obtain ⟨⟨path, rest⟩, hPath, h⟩ := bind_eq_ok.1 h
      cases h
      obtain ⟨us, rfl, hWritten⟩ := exists_writtenAs_of_readPath hPath
      exact ⟨_, rfl, .reference (constant?_eq_none_iff.1 hConstant) hWritten⟩
  · cases h
  · cases h

/-- Just the tokens that an expression is written with are read as that expression with nothing left. -/
theorem Expression.writtenAs_iff {e : Expression} {ts : List Token} : e.WrittenAs ts ↔ readExpression ts = .ok (e, []) := by
  constructor
  · intro h
    simpa using h.read endsPath_nil
  · intro h
    obtain ⟨us, rfl, hWritten⟩ := exists_writtenAs_of_readExpression h
    rwa [List.append_nil]

end TemplateQuery.Template
