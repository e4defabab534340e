import TemplateQuery.Proofs.Query.Writing
import TemplateQuery.Proofs.Template.Lexing

/-!
# Texts of tokens, one after the other

Texts of tokens can be put one after the other if they do not run together at the seam: white space keeps any two of them
apart, and it is needed only between words and numbers, and between a number and a point.
-/
namespace TemplateQuery.Template

open Query (blanks gap isDigit_iff)
open Text (isBlank)

def Token.isWord : Token → Bool
  | .word _ => true
  | _ => false

def Token.isNumber : Token → Bool
  | .int _ | .float _ => true
  | _ => false

/-- Two tokens could run together with nothing between them: words and numbers, or a number and a point. -/
def Token.touches (t u : Token) : Bool :=
  (t.isWord || t.isNumber) && (u.isWord || u.isNumber) || t.isNumber && u = .dot || t = .dot && u.isNumber

/-- The text after a token does not go on with it, nor make it a part of a number. -/
def Token.Apart (t : Token) (rest : List Char) : Prop :=
  t.EndsBefore rest ∧ (t = .dot → startsWithDigit rest = false)

theorem isDigit_of_isBlank {c : Char} (h : isBlank c = true) : c.isDigit = false := by
  rw [Bool.eq_false_iff]
  intro hDigit
  rw [Query.isBlank_of_isNameChar (Query.isNameChar_of_isDigit hDigit)] at h
  cases h

theorem isDigit_of_startsWord {c : Char} (h : startsWord c = true) : c.isDigit = false := by
  rw [Bool.eq_false_iff]
  intro hDigit
  rw [startsWord_of_mark c (List.mem_append_right ".[]|:,'\"-".toList (isDigit_iff.1 hDigit))] at h
  cases h

theorem Token.apart_of_blank (t : Token) {c : Char} (h : isBlank c = true) (rest : List Char) : t.Apart (c :: rest) := by
  have hDigit : c.isDigit = false := isDigit_of_isBlank h
  refine ⟨?_, fun _ => hDigit⟩
  cases t with
  | word w =>
    rintro _ ⟨⟩
    exact continuesWord_of_isBlank h
  | int i =>
    refine ⟨?_, ?_⟩
    · rintro _ ⟨⟩
      exact hDigit
    · rintro after ⟨⟩
      exact absurd h (by decide)
  | float x =>
    rintro _ ⟨⟩
    exact hDigit
  | string _ | dot | openBracket | closeBracket | pipe | colon | comma => trivial

/-- A token that is neither a word nor a number starts with a mark or a quote. -/
theorem Token.starts_of_spelling {u : Token} {s : List Char} (hs : s ∈ u.spelling) (hWord : u.isWord = false)
    (hNumber : u.isNumber = false) :
    ∃ c s', s = c :: s' ∧ (c ∈ "[]|:,'\"".toList ∨ u = .dot ∧ c = '.') := by
  cases u with
  | word _ => cases hWord
  | int _ | float _ => cases hNumber
  | string v =>
    obtain ⟨quote, hQuote, -, rfl⟩ := hs
    exact ⟨quote, _, rfl, .inl (by rcases hQuote with rfl | rfl <;> decide)⟩
  | dot => exact ⟨'.', [], hs, .inr ⟨rfl, rfl⟩⟩
  | openBracket | closeBracket | pipe | colon | comma => exact ⟨_, [], hs, .inl (by decide)⟩

theorem Token.apart_of_not_touches {t u : Token} (h : t.touches u = false) {s : List Char} (hs : s ∈ u.spelling)
    (rest : List Char) : t.Apart (s ++ rest) := by
  by_cases hWord : u.isWord = true
  · obtain ⟨w, rfl⟩ : ∃ w, u = .word w := by
      cases u <;> cases hWord
      exact ⟨_, rfl⟩
    obtain ⟨⟨⟨c, s', rfl, hc⟩, -⟩, -⟩ := hs
    cases t with
    | word _ | int _ | float _ => cases h
    | dot => exact ⟨trivial, fun _ => isDigit_of_startsWord hc⟩
    | string _ | openBracket | closeBracket | pipe | colon | comma => exact ⟨trivial, nofun⟩
  by_cases hNumber : u.isNumber = true
  · cases t with
    | word _ | int _ | float _ | dot =>
      cases u with
      | int _ | float _ => cases h
      | _ => cases hNumber
    | string _ | openBracket | closeBracket | pipe | colon | comma => exact ⟨trivial, nofun⟩
  obtain ⟨c, s', rfl, hc⟩ := starts_of_spelling hs (by simpa using hWord) (by simpa using hNumber)
  have hMark : c ∈ ".[]|:,'\"".toList := by
    rcases hc with hc | ⟨-, rfl⟩
    · exact List.mem_cons_of_mem '.' hc
    · decide
  refine ⟨?_, fun _ => isDigit_of_mark c hMark⟩
  cases t with
  | word _ =>
    rintro _ ⟨⟩
    exact continuesWord_of_mark c hMark
  | int _ =>
    refine ⟨?_, ?_⟩
    · rintro _ ⟨⟩
      exact isDigit_of_mark c hMark
    · rintro after ⟨⟩
      rcases hc with hc | ⟨rfl, -⟩
      · exact absurd hc (by decide)
      · simp [touches, isNumber] at h
  | float _ =>
    rintro _ ⟨⟩
    exact isDigit_of_mark c hMark
  | string _ | dot | openBracket | closeBracket | pipe | colon | comma => trivial

theorem Lexes.apart {t u : Token} {us : List Token} {s : List Char} (h : Lexes s (u :: us)) (hTouch : t.touches u = false) :
    t.Apart s := by
  cases h with
  | @cons b s' rest _ _ hBlanks hToken _ _ =>
    cases b with
    | nil => exact Token.apart_of_not_touches hTouch hToken rest
    | cons c b => exact t.apart_of_blank (hBlanks c List.mem_cons_self) _

theorem Lexes.blank_append {s b : List Char} {ts : List Token} (h : Lexes s ts) (hb : b ∈ blanks) : Lexes (b ++ s) ts := by
  cases ts with
  | nil => rwa [lexes_nil_iff, Text.skipBlank_append hb, ← lexes_nil_iff]
  | cons t ts => rwa [lexes_cons_iff, Text.skipBlank_append hb, ← lexes_cons_iff]

/-- More text after a token's end leaves the end where it is. -/
theorem Token.EndsBefore.append {t : Token} {rest : List Char} (h : t.EndsBefore rest) (hne : rest ≠ []) {more : List Char}
    (hPoint : rest = ['.'] → startsWithDigit more = false) : t.EndsBefore (rest ++ more) := by
  obtain ⟨c, rest, rfl⟩ := List.exists_cons_of_ne_nil hne
  cases t with
  | word _ | float _ => exact h
  | int _ =>
    refine ⟨h.1, ?_⟩
    rintro after ⟨⟩
    cases rest with
    | nil => exact hPoint rfl
    | cons d rest => exact h.2 (d :: rest) rfl
  | string _ | dot | openBracket | closeBracket | pipe | colon | comma => trivial

theorem Lexes.unique {s : List Char} {ts us : List Token} (h : Lexes s ts) (h' : Lexes s us) : ts = us := by
  rw [← tokensWithin_eq_ok_iff (Nat.le_refl _)] at h h'
  rw [h] at h'
  cases h'
  rfl

/-- Texts of tokens make up a text of all the tokens if they do not run together. -/
theorem Lexes.append {s more : List Char} {ts us : List Token} (h : Lexes s ts) (hMore : Lexes more us)
    (hApart : ∀ t ∈ ts.getLast?, t.Apart more) : Lexes (s ++ more) (ts ++ us) := by
  induction h with
  | nil hBlanks => exact hMore.blank_append hBlanks
  | @cons b s rest t ts hBlanks hToken hEnd hRest ih =>
    rw [List.append_assoc, List.append_assoc]
    have hLater : ∀ u ∈ ts.getLast?, u.Apart more := by
      intro u hu
      exact hApart u (by rw [List.getLast?_cons, hu]; rfl)
    refine .cons hBlanks hToken ?_ (ih hLater)
    -- Only the last token meets the new text, or a number before a last point, which could become its decimal point.
    by_cases hne : rest = []
    · subst hne
      obtain rfl : ts = [] := hRest.unique (.nil Query.nil_mem_blanks)
      exact (hApart t rfl).1
    · refine hEnd.append hne ?_
      rintro rfl
      have hDot : tokens "." = .ok [.dot] := rfl
      obtain rfl : ts = [.dot] := hRest.unique (tokens_eq_ok_iff.1 hDot)
      exact (hApart .dot rfl).2 rfl

/-- The texts of some tokens. -/
def texts (ts : List Token) : Language Char := {s | Lexes s ts}

/-- What must stand at least between the texts of some tokens and of those after them. -/
def room (left right : List Token) : Language Char :=
  if ∃ t ∈ left.getLast?, ∃ u ∈ right.head?, t.touches u = true then gap else blanks

theorem blanks_of_mem_room {left right : List Token} {b : List Char} (hb : b ∈ room left right) : b ∈ blanks := by
  rw [room] at hb
  split at hb
  · exact hb.1
  · exact hb

/-- Texts of some groups of tokens, one after the other, with white space between them. -/
def spaced : List (List Token) → Language Char
  | [] => blanks
  | [group] => texts group
  | group :: next :: groups => texts group * (room group next * spaced (next :: groups))

theorem lexes_of_mem_spaced {groups : List (List Token)} (hGroups : ∀ group ∈ groups, group ≠ []) {s : List Char}
    (hs : s ∈ spaced groups) : Lexes s groups.flatten := by
  induction groups generalizing s with
  | nil => exact .nil hs
  | cons group groups ih =>
    rw [List.flatten_cons]
    cases groups with
    | nil =>
      rw [List.flatten_nil, List.append_nil]
      exact hs
    | cons next groups =>
      obtain ⟨s₁, hFirst, _, ⟨b, hb, s₂, hSecond, rfl⟩, rfl⟩ := hs
      rw [List.forall_mem_cons] at hGroups
      have hRest : Lexes s₂ (next :: groups).flatten := ih hGroups.2 hSecond
      obtain ⟨u, us, rfl⟩ := List.exists_cons_of_ne_nil (hGroups.2 next List.mem_cons_self)
      refine Lexes.append hFirst (hRest.blank_append (blanks_of_mem_room hb)) fun t ht => ?_
      cases b with
      | cons c b => exact t.apart_of_blank (blanks_of_mem_room hb c List.mem_cons_self) _
      | nil =>
        refine hRest.apart ?_
        rw [Bool.eq_false_iff]
        intro hTouch
        rw [room, if_pos ⟨t, ht, u, rfl, hTouch⟩] at hb
        exact hb.2 rfl

theorem mem_texts_of_spelling {t : Token} {s : List Char} (hs : s ∈ t.spelling) : s ∈ texts [t] := by
  have hEnd : t.EndsBefore [] := by
    cases t <;> simp [Token.EndsBefore]
  have hLexes : Lexes ([] ++ (s ++ [])) [t] := .cons Query.nil_mem_blanks hs hEnd (.nil Query.nil_mem_blanks)
  rwa [List.nil_append, List.append_nil] at hLexes

theorem space_mem_room (left right : List Token) : [' '] ∈ room left right := by
  rw [room]
  split
  · exact ⟨Query.space_mem_blanks, List.cons_ne_nil _ _⟩
  · exact Query.space_mem_blanks

theorem nil_mem_room {left right : List Token} (h : ∀ t ∈ left.getLast?, ∀ u ∈ right.head?, t.touches u = false) :
    [] ∈ room left right := by
  rw [room, if_neg]
  · exact Query.nil_mem_blanks
  · rintro ⟨t, ht, u, hu, hTouch⟩
    rw [h t ht u hu] at hTouch
    cases hTouch

theorem append_mem_spaced {group next : List Token} {groups : List (List Token)} {s b rest : List Char}
    (hs : s ∈ texts group) (hb : b ∈ room group next) (hRest : rest ∈ spaced (next :: groups)) :
    s ++ (b ++ rest) ∈ spaced (group :: next :: groups) :=
  Language.append_mem_mul hs (Language.append_mem_mul hb hRest)

/-- With a space between any two of them, groups of tokens have a text if each of them has one. -/
theorem exists_mem_spaced {groups : List (List Token)} (h : ∀ group ∈ groups, ∃ s, s ∈ texts group) :
    ∃ s, s ∈ spaced groups := by
  induction groups with
  | nil => exact ⟨[], Query.nil_mem_blanks⟩
  | cons group groups ih =>
    obtain ⟨⟨s, hs⟩, hGroups⟩ := List.forall_mem_cons.1 h
    cases groups with
    | nil => exact ⟨s, hs⟩
    | cons next groups =>
      obtain ⟨rest, hRest⟩ := ih hGroups
      exact ⟨_, append_mem_spaced hs (space_mem_room group next) hRest⟩

end TemplateQuery.Template
