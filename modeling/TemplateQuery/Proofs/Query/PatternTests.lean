import Mathlib
import TemplateQuery.Proofs.Pattern.Anchoring
import TemplateQuery.Proofs.Pattern.Matching

/-!
# Tests of strings against patterns

`search` looks for a part of a string that matches, and `match` wants the whole string to match. But `match` does so with
the text of the pattern, which it writes between anchors. So its answer is the right one as long as the text is a pattern
there if it is one alone, and none there if it is none alone. All of this holds of any engine that keeps a few laws, and
the one that runs keeps them.
-/
namespace TemplateQuery

namespace Query

open Pattern (grouped)
open PatternEngine (compile? isMatch)

/-! ## Laws of pattern engines -/

/-- What is relied on of an engine, where `Matches` says which parts of a string a pattern matches, each from a position to
a later one or the same. -/
structure PatternEngine.Laws [PatternEngine] (Matches : PatternEngine.Compiled → String → Nat → Nat → Prop) : Prop where
  /-- A pattern is looked for anywhere in a string. -/
  isMatch_iff (pattern : PatternEngine.Compiled) (subject : String) :
    isMatch pattern subject = true ↔ ∃ i j, i ≤ j ∧ j ≤ subject.toList.length ∧ Matches pattern subject i j
  /-- A pattern in a group matches what it matches alone. -/
  group {text : String} {pattern inGroup : PatternEngine.Compiled} (h : compile? text = some pattern)
    (hGroup : compile? (grouped text) = some inGroup) (subject : String) (i j : Nat) :
    Matches inGroup subject i j ↔ Matches pattern subject i j
  /-- The anchors around a group stand for themselves: without them it still is a pattern. -/
  withoutAnchors {text : String} {pattern inAnchors : PatternEngine.Compiled} (h : compile? text = some pattern)
    (hAnchors : compile? ("^" ++ grouped text ++ "$") = some inAnchors) :
    ∃ inGroup, compile? (grouped text) = some inGroup
  /-- Of the matches of a group, anchors around it leave those of the whole string. -/
  anchors {text : String} {pattern inGroup inAnchors : PatternEngine.Compiled} (h : compile? text = some pattern)
    (hGroup : compile? (grouped text) = some inGroup) (hAnchors : compile? ("^" ++ grouped text ++ "$") = some inAnchors)
    (subject : String) (i j : Nat) :
    Matches inAnchors subject i j ↔ i = 0 ∧ j = subject.toList.length ∧ Matches inGroup subject i j

theorem anchored_eq (text : String) : anchored text = "^" ++ grouped text ++ "$" := by
  simp only [anchored, grouped, String.append_assoc]
  rfl

section Searches

variable [PatternEngine] {Matches : PatternEngine.Compiled → String → Nat → Nat → Prop} {text subject : String}
  {pattern : PatternEngine.Compiled}

theorem searches_iff : searches text subject = true ↔ ∃ p, compile? text = some p ∧ isMatch p subject = true := by
  rw [searches]
  cases compile? text <;> simp

theorem searches_of_some (h : compile? text = some pattern) : searches text subject = isMatch pattern subject := by
  rw [searches, h]

theorem searches_of_none (h : compile? text = none) : searches text subject = false := by
  rw [searches, h]

/-- The pattern between anchors matches nothing but the whole string. -/
theorem PatternEngine.Laws.isMatch_anchored (hLaws : PatternEngine.Laws Matches) {inAnchors : PatternEngine.Compiled}
    (h : compile? text = some pattern) (hAnchors : compile? (anchored text) = some inAnchors) :
    isMatch inAnchors subject = true ↔ Matches pattern subject 0 subject.toList.length := by
  rw [anchored_eq] at hAnchors
  obtain ⟨inGroup, hGroup⟩ := hLaws.withoutAnchors h hAnchors
  rw [hLaws.isMatch_iff, ← hLaws.group h hGroup]
  constructor
  · rintro ⟨i, j, -, -, hMatch⟩
    obtain ⟨rfl, rfl, hWhole⟩ := (hLaws.anchors h hGroup hAnchors subject i j).mp hMatch
    exact hWhole
  · intro hWhole
    exact ⟨0, _, Nat.zero_le _, le_rfl, (hLaws.anchors h hGroup hAnchors subject 0 _).mpr ⟨rfl, rfl, hWhole⟩⟩

theorem searches_anchored (hLaws : PatternEngine.Laws Matches) (h : compile? text = some pattern) :
    searches (anchored text) subject = true ↔
      (compile? (anchored text)).isSome = true ∧ Matches pattern subject 0 subject.toList.length := by
  rw [searches_iff, Option.isSome_iff_exists]
  constructor
  · rintro ⟨inAnchors, hAnchors, hMatch⟩
    exact ⟨⟨inAnchors, hAnchors⟩, (hLaws.isMatch_anchored h hAnchors).mp hMatch⟩
  · rintro ⟨⟨inAnchors, hAnchors⟩, hWhole⟩
    exact ⟨inAnchors, hAnchors, (hLaws.isMatch_anchored h hAnchors).mpr hWhole⟩

end Searches

/-- What `match` and `search` answer on two strings, for any engine that keeps the laws. If the second one is no pattern,
then `search` answers no, and `match` answers no unless the text is a pattern between anchors that matches somewhere. If it
is a pattern, then `search` tells whether some part of the first string matches it, and `match` tells whether the whole
string does. But a pattern that is none between anchors matches no whole string for `match`. Where `match` answers yes on a
pattern, `search` does too. -/
theorem match_and_search_of_strings [PatternEngine] {Matches : PatternEngine.Compiled → String → Nat → Nat → Prop}
    (hLaws : PatternEngine.Laws Matches) {x y : Operand} {subject text : String} (hx : x.value? = some (.string subject))
    (hy : y.value? = some (.string text)) :
    ∃ whole part,
      standardFunctions.call "match" [x, y] = .ok (.logical whole) ∧
      standardFunctions.call "search" [x, y] = .ok (.logical part) ∧
      (compile? text = none → part = false ∧
        (whole = true ↔ ∃ inAnchors, compile? ("^(?:" ++ text ++ ")$") = some inAnchors ∧
          ∃ i j, i ≤ j ∧ j ≤ subject.toList.length ∧ Matches inAnchors subject i j)) ∧
      ∀ pattern, compile? text = some pattern →
        (part = true ↔ ∃ i j, i ≤ j ∧ j ≤ subject.toList.length ∧ Matches pattern subject i j) ∧
        (whole = true ↔
          (compile? ("^(?:" ++ text ++ ")$")).isSome = true ∧ Matches pattern subject 0 subject.toList.length) ∧
        (whole = true → part = true) := by
  have hCall (name : String) (written : String → String) :
      patternTest name written [x, y] = .ok (.logical (searches (written text) subject)) := by
    simp only [patternTest, hx, hy]
  refine ⟨_, _, hCall "match" anchored, hCall "search" id, fun hNone => ⟨searches_of_none hNone, ?_⟩,
    fun pattern hSome => ⟨?_, searches_anchored hLaws hSome, fun hWhole => ?_⟩⟩
  · simp only [searches_iff, hLaws.isMatch_iff]
    rfl
  · rw [id, searches_of_some hSome, hLaws.isMatch_iff]
  · obtain ⟨-, hWhole⟩ := (searches_anchored hLaws hSome).mp hWhole
    rw [id, searches_of_some hSome, hLaws.isMatch_iff]
    exact ⟨0, _, Nat.zero_le _, le_rfl, hWhole⟩

end Query

/-! ## The engine that runs -/

namespace Pattern

open Query (PatternEngine anchored searches)

/-- The parts of a string that a pattern matches. -/
def MatchesIn (pattern : Pattern) (subject : String) : Nat → Nat → Prop := Matches (characters subject) pattern

/-- Between the ends there is only the match of the whole text. -/
theorem matches_betweenEnds {pattern : Pattern} {characters : Subject} {i j : Nat} :
    Matches characters (betweenEnds pattern) i j ↔
      i = 0 ∧ j = characters.size ∧ Matches characters pattern i j := by
  simp only [betweenEnds, Matches, MatchesInTurn, Assertion.holds, beq_iff_eq]
  constructor
  · rintro ⟨_, ⟨rfl, rfl⟩, _, hPattern, _, ⟨rfl, rfl⟩, rfl⟩
    exact ⟨rfl, rfl, hPattern⟩
  · rintro ⟨rfl, rfl, hPattern⟩
    exact ⟨0, ⟨rfl, rfl⟩, _, hPattern, _, ⟨rfl, rfl⟩, rfl⟩

theorem engine_laws : PatternEngine.Laws MatchesIn where
  isMatch_iff _ _ := occursIn_iff
  group h hGroup subject i j := by
    obtain ⟨rfl, -⟩ := (ofText?_grouped_iff h).mp hGroup
    exact Iff.rfl
  withoutAnchors h hAnchors := by
    rw [← Query.anchored_eq] at hAnchors
    obtain ⟨-, hComment, hDepth⟩ := (ofText?_anchored_iff h).mp hAnchors
    exact ⟨_, (ofText?_grouped_iff h).mpr ⟨rfl, hComment, Nat.le_succ_of_le hDepth⟩⟩
  anchors h hGroup hAnchors subject i j := by
    rw [← Query.anchored_eq] at hAnchors
    obtain ⟨rfl, -⟩ := (ofText?_grouped_iff h).mp hGroup
    obtain ⟨rfl, -⟩ := (ofText?_anchored_iff h).mp hAnchors
    have hSize : (characters subject).size = subject.toList.length := by simp [characters]
    rw [MatchesIn, matches_betweenEnds, hSize]
    rfl

/-- With the engine that runs, a text that is no pattern is none between anchors either unless it closes a group that it does
not open, and a pattern is one there unless it ends in a comment or is too deep. -/
theorem searches_anchored_iff {text subject : String} :
    (ofText? text = none → ¬ClosesUnopened text → searches (anchored text) subject = false) ∧
    ∀ pattern, ofText? text = some pattern →
      (searches (anchored text) subject = true ↔
        (¬EndsInComment text ∧ depth pattern ≤ 248) ∧ MatchesIn pattern subject 0 subject.toList.length) := by
  refine ⟨fun hNone hCloses => Query.searches_of_none (ofText?_anchored_eq_none hNone hCloses), fun pattern hSome => ?_⟩
  rw [Query.searches_anchored engine_laws hSome]
  refine and_congr_left fun _ => ?_
  show (ofText? (anchored text)).isSome = true ↔ _
  simp only [Option.isSome_iff_exists, ofText?_anchored_iff hSome, exists_eq_left]

end Pattern

namespace Query

open Pattern (MatchesIn ofText? engine_laws)

/-- A part of `ab` matches the pattern `a`, and `*` is no pattern, between anchors or alone. -/
theorem match_and_search_of_strings_part :
    PatternEngine.Laws MatchesIn ∧
    (∃ pattern, ofText? "a" = some pattern ∧ MatchesIn pattern "ab" 0 1) ∧
    standardFunctions.call "search" [.value (.string "ab"), .value (.string "a")] = .ok (.logical true) ∧
    standardFunctions.call "match" [.value (.string "ab"), .value (.string "a")] = .ok (.logical false) ∧
    standardFunctions.call "search" [.value (.string "ab"), .value (.string "*")] = .ok (.logical false) ∧
    standardFunctions.call "match" [.value (.string "ab"), .value (.string "*")] = .ok (.logical false) := by
  have hPattern : ofText? "a" = some (.chars (.single 'a') 0) := rfl
  have hPart : MatchesIn (.chars (.single 'a') 0) "ab" 0 1 := ⟨⟨'a', rfl, rfl⟩, rfl⟩
  have hNone : ofText? "*" = none := rfl
  have hNoneAnchored : ofText? (anchored "*") = none := rfl
  obtain ⟨whole, part, hWhole, hFound, -, hAnswers⟩ := match_and_search_of_strings engine_laws
    (show (Operand.value (.string "ab")).value? = some (.string "ab") from rfl)
    (show (Operand.value (.string "a")).value? = some (.string "a") from rfl)
  obtain ⟨hSearch, hMatch, -⟩ := hAnswers _ hPattern
  obtain ⟨whole', part', hWhole', hFound', hNothing, -⟩ := match_and_search_of_strings engine_laws
    (show (Operand.value (.string "ab")).value? = some (.string "ab") from rfl)
    (show (Operand.value (.string "*")).value? = some (.string "*") from rfl)
  obtain ⟨rfl, hNoMatch⟩ := hNothing hNone
  have hPartTrue : part = true := hSearch.mpr ⟨0, 1, by decide, by decide, hPart⟩
  have hWholeFalse : whole = false := by
    rw [Bool.eq_false_iff]
    intro hTrue
    obtain ⟨-, -, hEnd⟩ := hMatch.mp hTrue
    cases hEnd
  have hWholeFalse' : whole' = false := by
    rw [Bool.eq_false_iff]
    intro hTrue
    obtain ⟨inAnchors, hSome, -⟩ := hNoMatch.mp hTrue
    cases hNoneAnchored.symm.trans hSome
  exact ⟨engine_laws, ⟨_, hPattern, hPart⟩, hPartTrue ▸ hFound, hWholeFalse ▸ hWhole, hFound', hWholeFalse' ▸ hWhole'⟩

/-- The text `a)|(?:b` is no pattern, but it becomes one between anchors, and `a` matches it. The text `(?x)a#` is a pattern
that the whole of `a` matches, but between anchors its comment takes in what closes the group, and it is none. -/
theorem match_fails_on_pasted_texts :
    ofText? "a)|(?:b" = none ∧
    standardFunctions.call "search" [.value (.string "a"), .value (.string "a)|(?:b")] = .ok (.logical false) ∧
    standardFunctions.call "match" [.value (.string "a"), .value (.string "a)|(?:b")] = .ok (.logical true) ∧
    (∃ pattern, ofText? "(?x)a#" = some pattern ∧ MatchesIn pattern "a" 0 "a".toList.length) ∧
    standardFunctions.call "match" [.value (.string "a"), .value (.string "(?x)a#")] = .ok (.logical false) := by
  have hPattern : ofText? "(?x)a#" = some (.concat [.empty, .chars (.single 'a') 0]) := rfl
  exact ⟨rfl, rfl, rfl, ⟨_, hPattern, ⟨0, rfl, 1, ⟨⟨'a', rfl, rfl⟩, rfl⟩, rfl⟩⟩, rfl⟩

end Query

end TemplateQuery
