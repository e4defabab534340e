import TemplateQuery.Pattern.Reader
import TemplateQuery.Proofs.Query.Cursor.Expressions

/-!
# Positions

The cursor compiles queries as the readers do, so the positions that their errors count from the end of the text are the
places where it stood. It never was outside the text, and what it jumped over it had compared before.
-/
namespace TemplateQuery.Query

open Text (isBlank)

variable {α : Type} {text : List Char} {n : Nat}

/-! ## Trails -/

theorem Trail.Sound.there {trail : Trail} (h : trail.Sound text) {i : Nat} {c : Char} (hFound : .found i c ∈ trail) :
    text[i]? = some c := by
  induction h with
  | nil => cases hFound
  | found _ there ih =>
    cases hFound with
    | head => exact there
    | tail _ hEarlier => exact ih hEarlier
  | moved _ _ _ ih =>
    cases hFound with
    | tail _ hEarlier => exact ih hEarlier

/-- What a text allows it allows up to each step. -/
theorem Trail.Sound.of_suffix {trail earlier : Trail} (h : trail.Sound text) (hSuffix : earlier <:+ trail) :
    earlier.Sound text := by
  induction h with
  | nil =>
    rw [List.suffix_nil.1 hSuffix]
    exact .nil
  | found before there ih =>
    rcases List.suffix_cons_iff.1 hSuffix with rfl | hBefore
    · exact .found before there
    · exact ih hBefore
  | moved before within compared ih =>
    rcases List.suffix_cons_iff.1 hSuffix with rfl | hBefore
    · exact .moved before within compared
    · exact ih hBefore

theorem Tracks.sound {x : Except Fault (α × List Char)} {outcome : Except Error α × Trail} (h : Tracks text n x outcome) :
    outcome.2.Sound text := by
  cases h with
  | ok stands _ => exact stands.sound
  | error sound _ => exact sound

/-! ## Errors -/

/-- The position of a fault is where the rest starts that it was found in front of. -/
theorem Fault.IsIn.unexpected {fault : Fault} (h : fault.IsIn text) {position : Nat} {found : Char} {what : Expected}
    (hError : fault.toError text.length = .unexpected position found what) :
    text[position]? = some found ∧ isBlank found = false := by
  cases fault with
  | expected _ rest =>
    cases rest with
    | nil => cases hError
    | cons c rest =>
      obtain ⟨⟨before, rfl⟩, hBlank⟩ := h
      cases hError
      have hPlace : (before ++ found :: rest).length - (found :: rest).length = before.length := by
        simp only [List.length_append, Nat.add_sub_cancel]
      constructor
      · rw [hPlace, List.getElem?_append_right (Nat.le_refl _), Nat.sub_self]
        rfl
      · exact hBlank found rfl
  | _ => cases hError

/-! ## Queries -/

theorem tracks_query (known : String → Bool) (text : List Char) : Tracks text text.length
    ((readQuery known text).map fun segments => (segments, [])) (Cursor.query known text []) :=
  follows_query [] ⟨.nil, rfl⟩

/-- The cursor reads the whole of a query that it accepts. -/
theorem cursor_query_of_ok {known : String → Bool} {segments : List Segment} (h : readQuery known text = .ok segments) :
    (Cursor.query known text []).1 = .ok segments ∧ (Cursor.query known text []).2.place = text.length := by
  have hTracks := tracks_query known text
  rw [h] at hTracks
  generalize Cursor.query known text [] = outcome at hTracks ⊢
  cases hTracks with
  | ok stands _ => exact ⟨rfl, Nat.le_antisymm stands.sound.place_le (List.drop_eq_nil_iff.1 stands.drop_place)⟩

theorem cursor_query_of_error {known : String → Bool} {fault : Fault} (h : readQuery known text = .error fault) :
    (Cursor.query known text []).1 = .error (fault.toError text.length) ∧ fault.IsIn text := by
  have hTracks := tracks_query known text
  rw [h] at hTracks
  generalize Cursor.query known text [] = outcome at hTracks ⊢
  cases hTracks with
  | error _ isIn => exact ⟨rfl, isIn⟩

theorem map_cursor_query (functions : FunctionTable) (source : String) :
    (Cursor.query functions.knows source.toList []).1.map (fun segments => Compiled.mk source segments functions) =
      compile functions source := by
  rw [compile]
  cases hRead : readQuery functions.knows source.toList with
  | ok segments =>
    rw [(cursor_query_of_ok hRead).1]
    rfl
  | error fault =>
    rw [(cursor_query_of_error hRead).1]
    rfl

theorem place_of_compile {functions : FunctionTable} {source : String} {query : Compiled}
    (h : compile functions source = .ok query) :
    (Cursor.query functions.knows source.toList []).2.place = source.toList.length := by
  rw [compile] at h
  cases hRead : readQuery functions.knows source.toList with
  | ok segments => exact (cursor_query_of_ok hRead).2
  | error fault =>
    rw [hRead] at h
    cases h

theorem unexpected_is_there {functions : FunctionTable} {source : String} {position : Nat} {found : Char}
    {what : Expected} (h : compile functions source = .error (.unexpected position found what)) :
    source.toList[position]? = some found ∧ isBlank found = false := by
  rw [compile] at h
  cases hRead : readQuery functions.knows source.toList with
  | ok segments =>
    rw [hRead] at h
    cases h
  | error fault =>
    rw [hRead] at h
    exact (cursor_query_of_error hRead).2.unexpected (Except.error.inj h)

/-- Compiling a query is to read it with a cursor, up to its end if it compiles. Where an unexpected character is found,
the character stands at the position named, and it is no white space. Whatever becomes of the query, the cursor never is
past the end of the text, and where it moves by more than one character it has compared each of those that it goes over. -/
theorem positions_are_true (functions : FunctionTable) (source : String) :
    (Cursor.query functions.knows source.toList []).1.map (fun segments => Compiled.mk source segments functions) =
      compile functions source ∧
    (∀ query, compile functions source = .ok query →
      (Cursor.query functions.knows source.toList []).2.place = source.toList.length) ∧
    (∀ position found what, compile functions source = .error (.unexpected position found what) →
      position < source.toList.length ∧ source.toList[position]? = some found ∧ isBlank found = false) ∧
    ∀ position earlier, .moved position :: earlier <:+ (Cursor.query functions.knows source.toList []).2 →
      position ≤ source.toList.length ∧
        (Trail.place earlier + 1 < position → ∀ i, Trail.place earlier ≤ i → i < position →
          ∃ c, .found i c ∈ earlier ∧ source.toList[i]? = some c) := by
  constructor
  · exact map_cursor_query functions source
  constructor
  · exact fun query hCompile => place_of_compile hCompile
  constructor
  · intro position found what hError
    obtain ⟨hThere, hBlank⟩ := unexpected_is_there hError
    obtain ⟨hWithin, -⟩ := List.getElem?_eq_some_iff.1 hThere
    exact ⟨hWithin, hThere, hBlank⟩
  · intro position earlier hEarlier
    have hSound := (tracks_query functions.knows source.toList).sound.of_suffix hEarlier
    cases hSound with
    | moved before within compared =>
      refine ⟨within, fun hFar i hFrom hTo => ?_⟩
      obtain ⟨c, hc⟩ := compared hFar i hFrom hTo
      exact ⟨c, hc, before.there hc⟩

/-- A comparison, of which the cursor jumps over the sign, and behind it a sign that is not whole. -/
def misspelledQuery : String := "$[?@.a == 1 & @.b]"

/-- The steps up to the jump over the sign of the comparison. -/
def stepsToJump : Trail := (Cursor.query standardFunctions.knows misspelledQuery.toList []).2.drop 6

theorem positions_are_true_misspelled :
    compile standardFunctions misspelledQuery = .error (.unexpected 12 '&' (.char ']')) ∧
      (12 < misspelledQuery.toList.length ∧ misspelledQuery.toList[12]? = some '&' ∧ isBlank '&' = false) ∧
      stepsToJump.place = 7 ∧
      .moved 9 :: stepsToJump <:+ (Cursor.query standardFunctions.knows misspelledQuery.toList []).2 ∧
      9 ≤ misspelledQuery.toList.length ∧
      ∀ i, 7 ≤ i → i < 9 → ∃ c, .found i c ∈ stepsToJump ∧ misspelledQuery.toList[i]? = some c := by
  have hError : compile standardFunctions misspelledQuery = .error (.unexpected 12 '&' (.char ']')) := by
    have hMap : (compile standardFunctions misspelledQuery).map (fun _ => ()) =
        .error (.unexpected 12 '&' (.char ']')) := by decide +kernel
    cases hCompile : compile standardFunctions misspelledQuery with
    | ok query => simp [hCompile, Except.map] at hMap
    | error e => simpa [hCompile, Except.map] using hMap
  have hPlace : stepsToJump.place = 7 := by decide +kernel
  have hJump : .moved 9 :: stepsToJump <:+ (Cursor.query standardFunctions.knows misspelledQuery.toList []).2 := by
    decide +kernel
  obtain ⟨-, -, hTrue, hSteps⟩ := positions_are_true standardFunctions misspelledQuery
  obtain ⟨hWithin, hCompared⟩ := hSteps 9 stepsToJump hJump
  rw [hPlace] at hCompared
  exact ⟨hError, hTrue 12 '&' (.char ']') hError, hPlace, hJump, hWithin, hCompared (by decide)⟩

end TemplateQuery.Query
