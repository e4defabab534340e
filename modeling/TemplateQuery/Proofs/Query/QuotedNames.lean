import TemplateQuery.Pattern.Reader
import TemplateQuery.Proofs.Query.RoundTrip
import TemplateQuery.Proofs.Query.UnfinishedWords

/-!
# Names between quotes

A string between quotes may leave its characters as they are or escape them, each in its own way. The reader of strings
undoes just these encodings: the texts that it takes for a string are the encodings of this string and no others. JSON
has one of them for every string, so that a query can name any member of an object.
-/
namespace TemplateQuery.Query

open Text (isHexDigit hexDigit? valueInBase)

/-! ## What is read is an encoding -/

theorem mem_shortEscapes_of_shortEscape? {letter c : Char} (h : shortEscape? letter = some c) :
    (letter, c) ∈ shortEscapes := by
  unfold shortEscape? at h
  split_ifs at h with hn ht hr hb hf hSame
  all_goals simp only [Option.some.injEq] at h; subst h
  · simp [shortEscapes, hn]
  · simp [shortEscapes, ht]
  · simp [shortEscapes, hr]
  · simp [shortEscapes, hb]
  · simp [shortEscapes, hf]
  · rcases hSame with rfl | rfl | rfl | rfl <;> decide

theorem hexDigit?_lt {c : Char} {n : Nat} (h : hexDigit? c = some n) : n < 16 := by
  have hToNat : ∀ {c d : Char}, c ≤ d → c.toNat ≤ d.toNat := fun h => h
  unfold hexDigit? at h
  split_ifs at h with hDigit hLower hUpper
  all_goals simp only [Option.some.injEq] at h; subst h
  · rw [isDigit_iff] at hDigit
    exact forall_mem_of_all (p := fun c => Text.decimalDigit c < 16) (by decide) c hDigit
  · have hLast : c.toNat ≤ 'f'.toNat := hToNat hLower.2
    simp only [Char.reduceToNat] at hLast ⊢
    omega
  · have hLast : c.toNat ≤ 'F'.toNat := hToNat hUpper.2
    simp only [Char.reduceToNat] at hLast ⊢
    omega

/-- Four digits that are read as a character are a way to write its code point. -/
theorem eq_codePoint_of_unicodeChar {h₁ h₂ h₃ h₄ c : Char} (h : unicodeChar h₁ h₂ h₃ h₄ = .ok c) :
    (∀ d ∈ [h₁, h₂, h₃, h₄], isHexDigit d = true) ∧ valueInBase 16 [h₁, h₂, h₃, h₄] = c.toNat := by
  unfold unicodeChar at h
  split at h
  · rename_i a₁ a₂ a₃ a₄ e₁ e₂ e₃ e₄
    dsimp only at h
    split at h
    · cases h
    · rename_i hScalar
      cases h
      have hLess := And.intro (hexDigit?_lt e₁) (And.intro (hexDigit?_lt e₂) (And.intro (hexDigit?_lt e₃) (hexDigit?_lt e₄)))
      have hValid : (((a₁ * 16 + a₂) * 16 + a₃) * 16 + a₄).isValidChar := by
        unfold Nat.isValidChar
        omega
      have hToNat : (Char.ofNat (((a₁ * 16 + a₂) * 16 + a₃) * 16 + a₄)).toNat = ((a₁ * 16 + a₂) * 16 + a₃) * 16 + a₄ := by
        rw [Char.ofNat, dif_pos hValid]
        rfl
      constructor
      · simp [isHexDigit, e₁, e₂, e₃, e₄]
      · simp [hToNat, valueInBase, e₁, e₂, e₃, e₄]
  · cases h

/-- One more character, however it is spelled, in front of what is read as an encoding. -/
theorem exists_encoded_cons {quote c : Char} {u t s rest : List Char} (hu : SpellsChar quote c u)
    (ih : ∀ {s rest}, readQuoted quote t = .ok (s, rest) → ∃ e ∈ encoded quote s, t = e ++ quote :: rest)
    (h : (do
      let (xs, rest) ← readQuoted quote t
      return (c :: xs, rest)) = Except.ok (s, rest)) :
    ∃ e ∈ encoded quote s, u ++ t = e ++ quote :: rest := by
  obtain ⟨⟨xs, after⟩, hRead, hDone⟩ := bind_eq_ok.1 h
  cases hDone
  obtain ⟨e, he, rfl⟩ := ih hRead
  exact ⟨u ++ e, Language.append_mem_mul hu he, (List.append_assoc u e _).symm⟩

theorem exists_encoded_of_readQuoted {quote : Char} {t s rest : List Char} (h : readQuoted quote t = .ok (s, rest)) :
    ∃ e ∈ encoded quote s, t = e ++ quote :: rest := by
  fun_induction readQuoted quote t generalizing s rest with
  | case1 => cases h
  | case2 rest =>
    cases h
    exact ⟨[], rfl, rfl⟩
  | case3 => cases h
  | case4 h₁ h₂ h₃ h₄ t hQuote ih =>
    obtain ⟨c, hChar, h⟩ := bind_eq_ok.1 h
    obtain ⟨hex, value⟩ := eq_codePoint_of_unicodeChar hChar
    exact exists_encoded_cons (.codePoint [h₁, h₂, h₃, h₄] rfl hex value) ih h
  | case5 => cases h
  | case6 => cases h
  | case7 letter t _ _ c hEscape hQuote ih =>
    exact exists_encoded_cons (.short letter (mem_shortEscapes_of_shortEscape? hEscape)) ih h
  | case8 c t notQuote notEscape ih => exact exists_encoded_cons (.plain notQuote notEscape) ih h

/-- Reading a string undoes its encoding, and it undoes nothing else. -/
theorem readString_eq_ok_iff {quote : Char} (hQuote : quote ≠ '\\') {t : List Char} {s : String} {rest : List Char} :
    readString quote t = .ok (s, rest) ↔ ∃ e ∈ encoded quote s.toList, t = e ++ quote :: rest := by
  constructor
  · intro h
    obtain ⟨⟨xs, after⟩, hRead, hDone⟩ := bind_eq_ok.1 h
    cases hDone
    rw [String.toList_ofList]
    exact exists_encoded_of_readQuoted hRead
  · rintro ⟨e, he, rfl⟩
    simp [readString, readQuoted_encoded hQuote he]

/-! ## The encoding of JSON -/

theorem hex4_control {n : Nat} (h : n < 0x20) :
    (Text.hex4 n).length = 4 ∧ (∀ d ∈ Text.hex4 n, isHexDigit d = true) ∧ valueInBase 16 (Text.hex4 n) = n := by
  have hAll : ∀ n ∈ List.range 0x20,
      (Text.hex4 n).length = 4 ∧ (Text.hex4 n).all isHexDigit = true ∧ valueInBase 16 (Text.hex4 n) = n :=
    forall_mem_of_all (by decide)
  rw [← List.all_eq_true]
  exact hAll n (List.mem_range.2 h)

theorem escapeChar_spells (c : Char) : SpellsChar '"' c (Json.escapeChar c) := by
  unfold Json.escapeChar
  split_ifs with hQuote hEscape hBack hTab hLine hForm hReturn hControl
  · exact .short '"' (by simp [shortEscapes, hQuote])
  · exact .short '\\' (by simp [shortEscapes, hEscape])
  · exact .short 'b' (by simp [shortEscapes, hBack])
  · exact .short 't' (by simp [shortEscapes, hTab])
  · exact .short 'n' (by simp [shortEscapes, hLine])
  · exact .short 'f' (by simp [shortEscapes, hForm])
  · exact .short 'r' (by simp [shortEscapes, hReturn])
  · obtain ⟨hFour, hHex, hValue⟩ := hex4_control hControl
    exact .codePoint (Text.hex4 c.toNat) hFour hHex hValue
  · exact .plain hQuote hEscape

theorem flatMap_escapeChar_mem (s : List Char) : s.flatMap Json.escapeChar ∈ encoded '"' s := by
  induction s with
  | nil => exact rfl
  | cons c s ih =>
    rw [List.flatMap_cons]
    exact Language.append_mem_mul (escapeChar_spells c) ih

/-! ## Members by name -/

/-- The query for one member of the document, whose name stands between quotes. -/
def memberQuery (quote : Char) (e : List Char) : String :=
  String.ofList ('$' :: '[' :: quote :: (e ++ [quote, ']']))

/-- Between quotes of a kind, a text stands for a string. -/
structure Decodes (functions : FunctionTable) (quote : Char) (e : List Char) (s : String) : Prop where
  /-- It is read up to the closing quote, whatever follows that. -/
  string : ∀ rest, readString quote (e ++ quote :: rest) = .ok (s, rest)
  literal : ∀ rest, readLiteral (quote :: (e ++ quote :: rest)) = .ok (.string s, rest)
  query : compile functions (memberQuery quote e) = .ok ⟨memberQuery quote e, [.child s], functions⟩
  /-- In an object the query selects the member of that name, if there is one, and nothing else. -/
  member : ∀ query, compile functions (memberQuery quote e) = .ok query → ∀ members extra,
    query.run (.object members) extra = .ok (Dict.values (members.find? fun member => member.1 = s).toList)

theorem get?_eq_find? (members : List (String × Json)) (name : String) :
    Dict.get? members name = (members.find? fun member => member.1 = name).map (·.2) := by
  induction members with
  | nil => rfl
  | cons member rest ih =>
    by_cases h : member.1 = name
    · simp [Dict.get?, h]
    · simp [Dict.get?, h, ih]

theorem run_child (source : String) (functions : FunctionTable) (name : String) (members : List (String × Json))
    (extra : Json) :
    Compiled.run ⟨source, [.child name], functions⟩ (.object members) extra =
      .ok (Dict.values (members.find? fun member => member.1 = name).toList) := by
  simp only [Compiled.run, follow, gather, select, ok_bind, pure_eq_ok, Json.get?, get?_eq_find?, List.append_nil]
  cases members.find? fun member => member.1 = name with
  | none => rfl
  | some member => rfl

theorem memberQuery_mem_querySpelling {quote : Char} (hQuote : quote = '\'' ∨ quote = '"') {s : String} {e : List Char}
    (he : e ∈ encoded quote s.toList) : (memberQuery quote e).toList ∈ querySpelling [.child s] := by
  have hName : quote :: (e ++ [quote]) ∈ quoted s :=
    ⟨quote, hQuote, cons_mem_word_mul (Language.append_mem_mul he (mem_word.2 rfl))⟩
  have hPath : '[' :: (quote :: (e ++ [quote]) ++ [']']) ∈ pathSpelling [.child s] := by
    rw [pathSpelling, pathSpelling, mul_one]
    exact mem_blanks_mul (Language.append_mem_mul (mem_word.2 rfl) (mem_enclosed '[' ']' hName))
  have hQuery := mem_blanks_mul (cons_mem_word_mul (c := '$') (Language.append_mem_mul hPath nil_mem_blanks))
  simpa [memberQuery, querySpelling] using hQuery

theorem compile_memberQuery (functions : FunctionTable) {quote : Char} (hQuote : quote = '\'' ∨ quote = '"') {s : String}
    {e : List Char} (he : e ∈ encoded quote s.toList) :
    compile functions (memberQuery quote e) = .ok ⟨memberQuery quote e, [.child s], functions⟩ := by
  have hWritable : EverywhereOn functions.writable [.child s] := ⟨⟨trivial, trivial⟩, trivial⟩
  simp only [compile, readQuery_spelled hWritable (memberQuery_mem_querySpelling hQuote he)]

theorem ne_escape_of_quote {quote : Char} (h : quote = '\'' ∨ quote = '"') : quote ≠ '\\' := by
  rcases h with rfl | rfl <;> decide

theorem decodes_of_encoded (functions : FunctionTable) {quote : Char} (hQuote : quote = '\'' ∨ quote = '"') {s : String}
    {e : List Char} (he : e ∈ encoded quote s.toList) : Decodes functions quote e s where
  string rest := (readString_eq_ok_iff (ne_escape_of_quote hQuote)).2 ⟨e, he, rfl⟩
  literal rest := by
    have hString : readString quote (e ++ quote :: rest) = .ok (s, rest) :=
      (readString_eq_ok_iff (ne_escape_of_quote hQuote)).2 ⟨e, he, rfl⟩
    simp [readLiteral, hQuote, hString]
  query := compile_memberQuery functions hQuote he
  member query hCompile members extra := by
    rw [compile_memberQuery functions hQuote he] at hCompile
    cases hCompile
    exact run_child _ _ _ _ _

/-- The texts between quotes that stand for a string are its encodings, in whatever way each of its characters is
written, and the encoding of JSON is one of them. -/
theorem string_decodes_iff_encoded (functions : FunctionTable) (s : String) :
    (∀ quote e, quote = '\'' ∨ quote = '"' → (Decodes functions quote e s ↔ e ∈ encoded quote s.toList)) ∧
      ∃ e, (Json.quote s).toList = '"' :: (e ++ ['"']) ∧ Decodes functions '"' e s := by
  constructor
  · intro quote e hQuote
    constructor
    · intro h
      obtain ⟨e', he', hSame⟩ := (readString_eq_ok_iff (ne_escape_of_quote hQuote)).1 (h.string [])
      obtain rfl := List.append_cancel_right hSame
      exact he'
    · exact decodes_of_encoded functions hQuote
  · refine ⟨s.toList.flatMap Json.escapeChar, String.toList_ofList, ?_⟩
    exact decodes_of_encoded functions (Or.inr rfl) (flatMap_escapeChar_mem s.toList)

/-- A code point in digits of both cases, a quote of the other kind, an escaped quote and an escaped slash. -/
def mixedEncoding : List Char := ['\\', 'u', '0', '0', 'e', 'A', '"', '\\', '\'', '\\', '/', 'a']

theorem mixedEncoding_mem : mixedEncoding ∈ encoded '\'' ['ê', '"', '\'', '/', 'a'] := by
  have hCodePoint : SpellsChar '\'' 'ê' ['\\', 'u', '0', '0', 'e', 'A'] :=
    .codePoint ['0', '0', 'e', 'A'] rfl (List.all_eq_true.1 rfl) (by decide)
  have hOther : SpellsChar '\'' '"' ['"'] := .plain (by decide) (by decide)
  have hQuote : SpellsChar '\'' '\'' ['\\', '\''] := .short '\'' (by decide)
  have hSlash : SpellsChar '\'' '/' ['\\', '/'] := .short '/' (by decide)
  have hLetter : SpellsChar '\'' 'a' ['a'] := .plain (by decide) (by decide)
  have hEnd := Language.append_mem_mul hSlash (Language.append_mem_mul hLetter ((Language.mem_one []).2 rfl))
  exact Language.append_mem_mul hCodePoint (Language.append_mem_mul hOther (Language.append_mem_mul hQuote hEnd))

theorem string_decodes_iff_encoded_mixed :
    Decodes standardFunctions '\'' mixedEncoding (String.ofList ['ê', '"', '\'', '/', 'a']) := by
  have hTheorem := (string_decodes_iff_encoded standardFunctions (String.ofList ['ê', '"', '\'', '/', 'a'])).1
  rw [hTheorem '\'' mixedEncoding (Or.inl rfl), String.toList_ofList]
  exact mixedEncoding_mem

end TemplateQuery.Query
