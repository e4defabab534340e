import TemplateQuery.Pattern.Reader
import TemplateQuery.Proofs.Dict
import TemplateQuery.Proofs.Query.Composition
import TemplateQuery.Proofs.Query.Reading

/-!
# Larger function tables

A query does not notice functions that it does not call. The readers look at the function table only to know whether a
called function is in it, so with a larger table they read the same query or find the same fault, unless the smaller
table made them stop at a function that it lacks. The evaluation of a query calls only functions that the smaller table
has.
-/
namespace TemplateQuery.Query

/-- Every function of the table is in the larger one under the same name. -/
def FunctionTable.Includes (larger table : FunctionTable) : Prop :=
  ∀ name function, Dict.get? table name = some function → Dict.get? larger name = some function

/-- A function that is registered under a new name leaves all others as they are. -/
theorem FunctionTable.includes_register {table : FunctionTable} {name : String} (h : table.knows name = false)
    (function : Function) : (table.register name function).Includes table := by
  intro other found hFound
  have hOther : name ≠ other := by
    rintro rfl
    simp [knows, Dict.hasKey, hFound] at h
  rw [register, Dict.get?_put, if_neg hOther, hFound]

/-! ## Reading with a larger table -/

/-- Two readings have the same result, unless an unknown function stopped the first one. -/
inductive SameUnlessUnknown {α : Type} : Except Fault α → Except Fault α → Prop where
  | same (x : Except Fault α) : SameUnlessUnknown x x
  | unknown (name : String) (y : Except Fault α) : SameUnlessUnknown (.error (.unknownFunction name)) y

theorem SameUnlessUnknown.bind {α β : Type} {x y : Except Fault α} {f g : α → Except Fault β}
    (h : SameUnlessUnknown x y) (hfg : ∀ a, SameUnlessUnknown (f a) (g a)) :
    SameUnlessUnknown (x >>= f) (y >>= g) := by
  cases h with
  | same x =>
    cases x with
    | error e => exact .same _
    | ok a => exact hfg a
  | unknown name y => exact .unknown name _

/-- Two readers of which the second one knows more functions. -/
def ReadsMore {α : Type} (read read' : Reading α) : Prop := ∀ s, SameUnlessUnknown (read s) (read' s)

theorem ReadsMore.commaList {α : Type} {item item' : Reading α} (h : ReadsMore item item') (more : Nat) :
    ReadsMore (commaList item more) (commaList item' more) := by
  induction more with
  | zero => exact fun s => (h s).bind fun _ => .same _
  | succ more ih =>
    refine fun s => (h s).bind fun ⟨x, rest⟩ => ?_
    dsimp only
    split
    · exact (ih _).bind fun _ => .same _
    · exact .same _

section Segments

variable {expr expr' : Reading Expr}

theorem ReadsMore.selector (h : ReadsMore expr expr') : ReadsMore (readSelector expr) (readSelector expr') := by
  intro s
  unfold readSelector
  split
  · exact .same _
  · split_ifs
    · exact .same _
    · exact .same _
    · exact (h _).bind fun _ => .same _
    · exact .same _
    · exact .same _
    · exact .same _

theorem ReadsMore.bracket (h : ReadsMore expr expr') : ReadsMore (readBracket expr) (readBracket expr') :=
  fun s => (h.selector.commaList s.length s).bind fun _ => .same _

theorem ReadsMore.dotted (h : ReadsMore expr expr') : ReadsMore (readDotted expr) (readDotted expr') := by
  intro s
  unfold readDotted
  split
  · unfold readDescent
    dsimp only
    split
    · exact (h.bracket _).bind fun _ => .same _
    · exact .same _
    · exact .same _
  · exact .same _
  · exact .same (readChild s)

theorem ReadsMore.segments (h : ReadsMore expr expr') (more : Nat) :
    ReadsMore (readSegments expr more) (readSegments expr' more) := by
  induction more with
  | zero => exact fun s => .same _
  | succ more ih =>
    intro s
    rw [readSegments, readSegments]
    split
    · exact (h.dotted _).bind fun _ => (ih _).bind fun _ => .same _
    · exact (h.bracket _).bind fun _ => (ih _).bind fun _ => .same _
    · exact .same _

theorem ReadsMore.path (h : ReadsMore expr expr') (root : Root) : ReadsMore (readPath expr root) (readPath expr' root) :=
  fun s => (h.segments s.length s).bind fun _ => .same _

end Segments

section Expressions

variable {known known' : String → Bool} {expr expr' : Reading Expr}

theorem ReadsMore.call (h : ReadsMore expr expr') (name : String) :
    ReadsMore (readCall expr name) (readCall expr' name) := by
  intro s
  unfold readCall
  split
  · exact .same _
  · exact (h.commaList _ _).bind fun _ => .same _

/-- Only here does the table decide how the reading goes on. -/
theorem ReadsMore.word (h : ReadsMore expr expr') (hKnown : ∀ name, known name = true → known' name = true) :
    ReadsMore (readWord expr known) (readWord expr' known') := by
  refine fun s => (SameUnlessUnknown.same (readName s)).bind fun ⟨name, rest⟩ => ?_
  dsimp only
  split_ifs with hTrue hFalse hNull hName hName'
  · exact .same _
  · exact .same _
  · exact .same _
  · split
    · exact h.call name _
    · exact .same _
  · exact absurd (hKnown name hName) hName'
  · split
    · exact .unknown name _
    · exact .same _
  · exact .same _

theorem ReadsMore.primary (h : ReadsMore expr expr') (hKnown : ∀ name, known name = true → known' name = true) :
    ReadsMore (readPrimary expr known) (readPrimary expr' known') := by
  intro s
  unfold readPrimary
  split
  · exact .same _
  · split_ifs
    · exact (h _).bind fun _ => .same _
    · exact h.path _ _
    · exact h.path _ _
    · exact h.path _ _
    · exact .same _
    · exact h.word hKnown _
    · exact .same _

theorem ReadsMore.compared {primary primary' : Reading Expr} (h : ReadsMore primary primary') :
    ReadsMore (readCompared primary) (readCompared primary') := by
  refine fun s => (h s).bind fun ⟨left, rest⟩ => ?_
  dsimp only
  split
  · exact (h _).bind fun _ => .same _
  · exact .same _

theorem ReadsMore.negated {operand operand' : Reading Expr} (h : ReadsMore operand operand') (more : Nat) :
    ReadsMore (readNegated operand more) (readNegated operand' more) := by
  induction more with
  | zero => exact h
  | succ more ih =>
    intro s
    rw [readNegated, readNegated]
    split
    · exact h s
    · exact (ih _).bind fun _ => .same _
    · exact h s

theorem ReadsMore.chain {operand operand' : Reading Expr} (h : ReadsMore operand operand') (sign : Char)
    (join : Expr → Expr → Expr) (more : Nat) (left : Expr) :
    ReadsMore (readChain sign join operand more left) (readChain sign join operand' more left) := by
  induction more generalizing left with
  | zero => exact fun s => .same _
  | succ more ih =>
    intro s
    rw [readChain, readChain]
    split
    · split_ifs
      · exact (h _).bind fun _ => ih _ _
      · exact .same _
    · exact .same _

theorem ReadsMore.joined {operand operand' : Reading Expr} (h : ReadsMore operand operand') (sign : Char)
    (join : Expr → Expr → Expr) : ReadsMore (readJoined sign join operand) (readJoined sign join operand') :=
  fun s => (h s).bind fun ⟨left, rest⟩ => h.chain sign join rest.length left rest

theorem readsMore_readExpr (hKnown : ∀ name, known name = true → known' name = true) (depth : Nat) :
    ReadsMore (readExpr known depth) (readExpr known' depth) := by
  induction depth with
  | zero => exact fun s => .same _
  | succ depth ih =>
    have hNegated : ReadsMore (fun s => readNegated (readCompared (readPrimary (readExpr known depth) known)) s.length s)
        (fun s => readNegated (readCompared (readPrimary (readExpr known' depth) known')) s.length s) :=
      fun s => (ih.primary hKnown).compared.negated s.length s
    exact (hNegated.joined '&' .and).joined '|' .or

theorem sameUnlessUnknown_readQuery (hKnown : ∀ name, known name = true → known' name = true) (s : List Char) :
    SameUnlessUnknown (readQuery known s) (readQuery known' s) := by
  unfold readQuery
  split
  · exact ((readsMore_readExpr hKnown _).segments _ _).bind fun _ => .same _
  · exact .same _

end Expressions

/-! ## Queries -/

section Queries

variable {table larger : FunctionTable}

theorem FunctionTable.Includes.knows (h : larger.Includes table) {name : String} (hName : table.knows name = true) :
    larger.knows name = true := by
  obtain ⟨function, hFunction⟩ := Option.isSome_iff_exists.1 hName
  rw [FunctionTable.knows, Dict.hasKey, h name function hFunction]
  rfl

/-- Compiling gives the same query with the other table, unless an unknown function stops it. -/
theorem FunctionTable.Includes.compile_eq (h : larger.Includes table) (source : String)
    (hKnown : ∀ name, compile table source ≠ .error (.unknownFunction name)) :
    compile larger source = (compile table source).map fun query => { query with functions := larger } := by
  have hRead : SameUnlessUnknown (readQuery table.knows source.toList) (readQuery larger.knows source.toList) :=
    sameUnlessUnknown_readQuery (fun _ => h.knows) _
  simp only [compile] at hKnown ⊢
  generalize readQuery table.knows source.toList = x, readQuery larger.knows source.toList = y at hRead hKnown ⊢
  cases hRead with
  | same x => cases x <;> rfl
  | unknown name y => exact absurd rfl (hKnown name)

/-- A path that calls functions of the smaller table only is followed alike with both. -/
theorem FunctionTable.Includes.follow_eq (h : larger.Includes table) {segments : List Segment}
    (hCalls : EverywhereOn (callsOnly fun name => table.knows name = true) segments) (document extra : Json) :
    follow ⟨document, extra, larger⟩ segments = follow ⟨document, extra, table⟩ segments := by
  refine follow_congr_of_everywhere (fun root _ _ _ => ?_) (fun name _ hName operands => ?_) hCalls
  · cases root <;> rfl
  · obtain ⟨function, hFunction⟩ := Option.isSome_iff_exists.1 hName
    rw [FunctionTable.call, FunctionTable.call, h name function hFunction, hFunction]

/-- A query that compiles with a function table compiles to the same path with every larger one, and has the same
matches or the same error on all data. A text that is wrong in anything but the name of a function is wrong in the same
way with the larger table. -/
theorem larger_table_changes_no_query (h : larger.Includes table) (source : String) :
    (∀ query, compile table source = .ok query →
      ∃ query', compile larger source = .ok query' ∧ query'.segments = query.segments ∧
        ∀ document extra, query'.run document extra = query.run document extra) ∧
    ∀ e, compile table source = .error e → (∀ name, e ≠ .unknownFunction name) →
      compile larger source = .error e := by
  refine ⟨fun query hCompile => ?_, fun e hCompile hKnown => ?_⟩
  · obtain ⟨hRead, -, rfl⟩ := compile_eq_ok hCompile
    have hCalls : EverywhereOn (callsOnly fun name => query.functions.knows name = true) query.segments := by
      refine (readQuery_wellShaped hRead).mono (fun s _ => ?_) (fun e he => ?_)
      · trivial
      · exact he
    refine ⟨{ query with functions := larger }, ?_, rfl, fun document extra => ?_⟩
    · rw [h.compile_eq source (by simp [hCompile]), hCompile]
      rfl
    · rw [Compiled.run, Compiled.run, h.follow_eq hCalls]
  · rw [h.compile_eq source (by simpa [hCompile] using hKnown), hCompile]
    rfl

/-- The standard functions and one that tells whether its argument holds no value. -/
def withMissing : FunctionTable :=
  standardFunctions.register "missing" fun operands => .ok (.logical (operands.all fun x => x.value?.isNone))

theorem larger_table_changes_no_query_missing :
    withMissing.Includes standardFunctions ∧
    (∃ query, compile withMissing "$[?count(@.*) > length(_)]" = .ok query ∧
      query.run (.array [.array [.null], .array [.null, .null]]) (.string "x") = .ok [.array [.null, .null]]) ∧
    compile withMissing "$[?count(@.*) > length(_)" = .error (.ended (.char ']')) ∧
    compile standardFunctions "$[?missing(@.a)]" = .error (.unknownFunction "missing") ∧
    ∃ query, compile withMissing "$[?missing(@.a)]" = .ok query := by
  have hIncludes : withMissing.Includes standardFunctions := FunctionTable.includes_register (by decide) _
  refine ⟨hIncludes, ?_, ?_, rfl, _, rfl⟩
  · obtain ⟨query, hCompile, -, hRun⟩ :=
      (larger_table_changes_no_query hIncludes "$[?count(@.*) > length(_)]").1 _ rfl
    exact ⟨query, hCompile, hRun _ _⟩
  · exact (larger_table_changes_no_query hIncludes "$[?count(@.*) > length(_)").2 _ rfl nofun

end Queries

end TemplateQuery.Query
