import TemplateQuery.Proofs.Query.Spelling

/-!
# A spelling of each query

One way to write a query: strings in single quotes, digits without leading zeros, one space on both sides of an operator
and no other white space. It shows that a query which can be spelled at all has a spelling.
-/
namespace TemplateQuery.Query

open Text (decimalValue)

/-! ## Writing -/

def writeString (s : String) : List Char :=
  '\'' :: (s.toList.flatMap (fun c => if c = '\'' ∨ c = '\\' then ['\\', c] else [c]) ++ ['\''])

def writeInt (i : Int) : List Char :=
  if i < 0 then '-' :: Nat.toDigits 10 i.natAbs else Nat.toDigits 10 i.natAbs

def writeScalar : Json → List Char
  | .string s => writeString s
  | .number (.int i) => writeInt i
  | .bool true => "true".toList
  | .bool false => "false".toList
  | .null => "null".toList
  | _ => []

def writeItems : List (List Char) → List Char
  | [] => []
  | [item] => item
  | item :: items => item ++ ',' :: writeItems items

def writeLiteral : Json → List Char
  | .array items => '[' :: (writeItems (items.map writeScalar) ++ [']'])
  | value => writeScalar value

def writeSlice (start stop step : Option Int) : List Char :=
  start.elim [] writeInt ++ ':' :: (stop.elim [] writeInt ++ step.elim [] fun i => ':' :: writeInt i)

def parenthesize (needed : Nat) (e : Expr) (bare : List Char) : List Char :=
  if needed ≤ e.strength then bare else '(' :: (bare ++ [')'])

mutual

def Segment.write : Segment → List Char
  | .child name => writeString name
  | .index position => writeInt position
  | .wildcard => ['*']
  | .descend selector => selector.write
  | .slice start stop step => writeSlice start stop step
  | .union selectors => writeItems (writeSelectors selectors)
  | .filter test => '?' :: test.write
termination_by structural s => s

def writeSelectors : List Segment → List (List Char)
  | [] => []
  | s :: segments => s.write :: writeSelectors segments
termination_by structural segments => segments

def writePath : List Segment → List Char
  | [] => []
  | s :: segments => s.mark ++ '[' :: (s.write ++ ']' :: writePath segments)
termination_by structural segments => segments

def Expr.write : Expr → List Char
  | .literal value => writeLiteral value
  | .path root segments => root.mark :: writePath segments
  | .call name arguments => name.toList ++ '(' :: (writeItems (writeArguments arguments) ++ [')'])
  | .not operand => '!' :: parenthesize 2 operand operand.write
  | .and left right =>
    parenthesize 1 left left.write ++ ' ' :: '&' :: '&' :: ' ' :: parenthesize 2 right right.write
  | .or left right =>
    parenthesize 0 left left.write ++ ' ' :: '|' :: '|' :: ' ' :: parenthesize 1 right right.write
  | .compare left op right =>
    parenthesize 4 left left.write ++ ' ' :: (op.text ++ ' ' :: parenthesize 4 right right.write)
termination_by structural e => e

def writeArguments : List Expr → List (List Char)
  | [] => []
  | e :: exprs => e.write :: writeArguments exprs
termination_by structural exprs => exprs

end

/-- The query as text. -/
def writeQuery (segments : List Segment) : String := String.ofList ('$' :: writePath segments)

/-! ## What is written is a spelling -/

theorem space_mem_blanks : [' '] ∈ blanks := by
  intro c hc
  rw [List.mem_singleton.1 hc]
  decide

theorem space_mem_around (op : Comparison) : [' '] ∈ op.around := by
  rw [Comparison.around]
  split
  · exact ⟨space_mem_blanks, List.cons_ne_nil _ _⟩
  · exact space_mem_blanks

/-- No white space at all is white space that may stand before anything. -/
theorem mem_blanks_mul {l : Language Char} {t : List Char} (ht : t ∈ l) : t ∈ blanks * l :=
  Language.append_mem_mul nil_mem_blanks ht

theorem cons_mem_word_mul {c : Char} {l : Language Char} {t : List Char} (ht : t ∈ l) : c :: t ∈ word [c] * l :=
  Language.append_mem_mul (mem_word.2 rfl) ht

theorem mem_enclosed (opening closing : Char) {l : Language Char} {t : List Char} (ht : t ∈ l) :
    opening :: (t ++ [closing]) ∈ enclosed opening closing l :=
  cons_mem_word_mul (mem_blanks_mul (Language.append_mem_mul ht (mem_blanks_mul (mem_word.2 rfl))))

theorem mem_binary {room left right : Language Char} {l r b : List Char} (hb : b ∈ room) (sign : List Char)
    (hl : l ∈ left) (hr : r ∈ right) : l ++ (b ++ (sign ++ (b ++ r))) ∈ binary room sign left right := by
  have hSign := Language.append_mem_mul (mem_word.2 (rfl : sign = sign)) (Language.append_mem_mul hb hr)
  exact Language.append_mem_mul hl (Language.append_mem_mul hb hSign)

theorem writeItems_mem {α : Type} {write : α → List Char} {spelling : α → Language Char} {xs : List α}
    (h : ∀ x ∈ xs, write x ∈ spelling x) : writeItems (xs.map write) ∈ commaSeparated (xs.map spelling) := by
  induction xs with
  | nil => exact rfl
  | cons x xs ih =>
    obtain ⟨hx, hxs⟩ := List.forall_mem_cons.1 h
    cases xs with
    | nil => exact hx
    | cons y ys => exact Language.append_mem_mul hx (mem_blanks_mul (cons_mem_word_mul (mem_blanks_mul (ih hxs))))

theorem writeString_mem (s : String) : writeString s ∈ quoted s := by
  refine ⟨'\'', Or.inl rfl, cons_mem_word_mul (Language.append_mem_mul ?_ (mem_word.2 rfl))⟩
  induction s.toList with
  | nil => exact rfl
  | cons c s ih =>
    rw [List.flatMap_cons]
    refine Language.append_mem_mul ?_ ih
    split
    · rename_i hc
      rcases hc with rfl | rfl <;> exact SpellsChar.short _ (by decide)
    · rename_i hc
      rw [not_or] at hc
      exact SpellsChar.plain hc.1 hc.2

theorem toDigits_mem_decimal (n : Nat) : Nat.toDigits 10 n ∈ decimal n := by
  refine ⟨Nat.toDigits_ne_nil, fun c hc => Nat.isDigit_of_mem_toDigits (by decide) (by decide) hc, ?_⟩
  have hValue : decimalValue (Nat.toDigits 10 n) = Nat.ofDigitChars 10 (Nat.toDigits 10 n) 0 := by
    simp only [decimalValue, Nat.ofDigitChars, Text.decimalDigit, Nat.mul_comm]
  rw [hValue, Nat.ofDigitChars_ten_toDigits]

theorem writeInt_mem (i : Int) : writeInt i ∈ numeral i := by
  rw [writeInt]
  split
  · exact Or.inr ⟨i.natAbs, by omega, cons_mem_word_mul (toDigits_mem_decimal _)⟩
  · exact Or.inl ⟨i.natAbs, by omega, toDigits_mem_decimal _⟩

theorem writeScalar_mem {value : Json} (h : IsScalar value) : writeScalar value ∈ scalarSpelling value := by
  cases value with
  | null => exact rfl
  | bool b => cases b <;> exact rfl
  | number n =>
    cases n with
    | int i => exact writeInt_mem i
    | real x => exact h.elim
  | string s => exact writeString_mem s
  | array items => exact h.elim
  | object members => exact h.elim

theorem writeLiteral_mem {value : Json} (h : IsLiteral value) : writeLiteral value ∈ literalSpelling value := by
  cases value with
  | array items => exact mem_enclosed '[' ']' (writeItems_mem fun x hx => writeScalar_mem (h x hx))
  | object members => exact h.elim
  | null => exact rfl
  | bool b => exact writeScalar_mem h
  | number n => exact writeScalar_mem h
  | string s => exact writeString_mem s

theorem writeSlice_mem (start stop step : Option Int) : writeSlice start stop step ∈ sliceSpelling start stop step := by
  refine Language.append_mem_mul ?_ (cons_mem_word_mul (mem_blanks_mul (Language.append_mem_mul ?_ ?_)))
  · cases start with
    | none => exact rfl
    | some i =>
      rw [Option.elim_some, ← List.append_nil (writeInt i)]
      exact Language.append_mem_mul (writeInt_mem i) nil_mem_blanks
  · cases stop with
    | none => exact rfl
    | some i => exact writeInt_mem i
  · cases step with
    | none => exact Or.inl rfl
    | some i => exact mem_blanks_mul (cons_mem_word_mul (mem_blanks_mul (writeInt_mem i)))

theorem parenthesize_mem (needed : Nat) {e : Expr} (h : e.write ∈ e.spelling) :
    parenthesize needed e e.write ∈ e.atStrength needed e.spelling := by
  rw [parenthesize, Expr.atStrength]
  split
  · exact h
  · exact mem_enclosed '(' ')' h

theorem writePath_mem {segments : List Segment} (h : ∀ s ∈ segments, s.write ∈ s.inside) :
    writePath segments ∈ pathSpelling segments := by
  induction segments with
  | nil => exact rfl
  | cons s segments ih =>
    obtain ⟨hs, hSegments⟩ := List.forall_mem_cons.1 h
    have hBracket := Language.append_mem_mul (mem_enclosed '[' ']' hs) (ih hSegments)
    rw [List.cons_append, List.append_assoc, List.singleton_append] at hBracket
    exact mem_blanks_mul (Language.append_mem_mul (mem_word.2 rfl) hBracket)

theorem writeSelectors_eq_map (segments : List Segment) : writeSelectors segments = segments.map Segment.write := by
  induction segments with
  | nil => rfl
  | cons s segments ih => rw [writeSelectors, ih, List.map_cons]

theorem writeArguments_eq_map (exprs : List Expr) : writeArguments exprs = exprs.map Expr.write := by
  induction exprs with
  | nil => rfl
  | cons e exprs ih => rw [writeArguments, ih, List.map_cons]

theorem write_mem {functions : FunctionTable} :
    Hereditary (fun s => s.Everywhere functions.writable → s.write ∈ s.inside)
      (fun e => e.Everywhere functions.writable → e.write ∈ e.spelling) where
  child name _ := writeString_mem name
  index position _ := writeInt_mem position
  wildcard _ := rfl
  descend _ ih h := ih h.2
  slice start stop step _ := writeSlice_mem start stop step
  union selectors ih h := by
    rw [Segment.write, Segment.inside, insides_eq_map, writeSelectors_eq_map]
    exact writeItems_mem fun s hs => ih s hs ((everywhereOn_iff _ _).1 h.2 s hs)
  filter _ ih h := cons_mem_word_mul (mem_blanks_mul (ih h.2))
  literal _ h := writeLiteral_mem h
  path _ _ ih h := cons_mem_word_mul (writePath_mem fun s hs => ih s hs ((everywhereOn_iff _ _).1 h.2 s hs))
  call name arguments ih h := by
    rw [Expr.write, Expr.spelling, spellings_eq_map, writeArguments_eq_map]
    refine Language.append_mem_mul (mem_word.2 rfl) (mem_blanks_mul (mem_enclosed '(' ')' ?_))
    exact writeItems_mem fun e he => ih e he ((everywhereIn_iff _ _).1 h.2 e he)
  not _ ih h := cons_mem_word_mul (mem_blanks_mul (parenthesize_mem _ (ih h.2)))
  and left right ihl ihr h :=
    mem_binary space_mem_blanks ['&', '&'] (parenthesize_mem 1 (ihl h.2.1)) (parenthesize_mem 2 (ihr h.2.2))
  or left right ihl ihr h :=
    mem_binary space_mem_blanks ['|', '|'] (parenthesize_mem 0 (ihl h.2.1)) (parenthesize_mem 1 (ihr h.2.2))
  compare left op right ihl ihr h :=
    mem_binary (space_mem_around op) op.text (parenthesize_mem 4 (ihl h.2.1)) (parenthesize_mem 4 (ihr h.2.2))

/-- Every query that can be spelled has a spelling. -/
theorem writeQuery_mem {functions : FunctionTable} {segments : List Segment}
    (h : EverywhereOn functions.writable segments) : (writeQuery segments).toList ∈ querySpelling segments := by
  have hPath := writePath_mem fun s hs => write_mem.segment s ((everywhereOn_iff _ _).1 h s hs)
  rw [writeQuery, String.toList_ofList, ← List.append_nil (writePath segments)]
  exact mem_blanks_mul (cons_mem_word_mul (Language.append_mem_mul hPath nil_mem_blanks))

end TemplateQuery.Query
