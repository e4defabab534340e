import TemplateQuery.Proofs.Template.Blocks

/-!
# Faults in markup

Markup that does not read as nodes has a fault at some piece of it: all markup before that piece reads as it should, in
blocks that are still open there. The reader of blocks reports just these faults, and each of them with the line of the
piece that it is at.
-/
namespace TemplateQuery.Template

/-- The markup has a fault at a piece of it, which stands between what comes before it and what comes after it. A tag of
the given name closes the markup. -/
inductive FaultAt (env : Environment) : Option String → List Markup → Markup → List Markup → Error → Prop where
  | output {closing : Option String} {source : String} {line : Nat} {cause : Malformation} (back : List Markup)
    (hPipeline : Pipeline.ofText source = .error cause) :
    FaultAt env closing [] (.output source line) back (.malformed cause (some line))
  | unknownTag {closing : Option String} {name : String} (header : String) (line : Nat) (back : List Markup)
    (hOpens : ¬(name = "else" ∨ some name = closing)) (hTag : Dict.get? env.tags name = none) :
    FaultAt env closing [] (.tag name header line) back (.unbalanced (.unknownTag name) line)
  | missingEnd {closing : Option String} {name : String} {tag : BlockTag} {inside : List Markup} {body : List Node}
    {alternative : Option (List Node)} (header : String) (line : Nat) (hOpens : ¬(name = "else" ∨ some name = closing))
    (hTag : Dict.get? env.tags name = some tag) (hInside : ReadsInside env name inside body alternative) :
    FaultAt env closing [] (.tag name header line) inside (missingEnd name line)
  | header {closing : Option String} {name header : String} {line : Nat} {tag : BlockTag} {inside : List Markup}
    {body : List Node} {alternative : Option (List Node)} {cause : Malformation} (endHeader : String) (endLine : Nat)
    (rest : List Markup) (hOpens : ¬(name = "else" ∨ some name = closing)) (hTag : Dict.get? env.tags name = some tag)
    (hInside : ReadsInside env name inside body alternative) (hHeader : LoopHeader.ofText tag header = .error cause) :
    FaultAt env closing [] (.tag name header line) (inside ++ .tag (endName name) endHeader endLine :: rest)
      (.malformed cause (some line))
  | secondElse {closing : Option String} {name : String} {tag : BlockTag} {inside : List Markup}
    {body alternative : List Node} (header elseHeader : String) (line elseLine : Nat) (back : List Markup)
    (hOpens : ¬(name = "else" ∨ some name = closing)) (hTag : Dict.get? env.tags name = some tag)
    (hInside : ReadsInside env name inside body (some alternative)) :
    FaultAt env closing (.tag name header line :: inside) (.tag "else" elseHeader elseLine) back
      (.unbalanced .secondElse elseLine)
  | body {closing : Option String} {name : String} {tag : BlockTag} {front back : List Markup} {m : Markup} {e : Error}
    (header : String) (line : Nat) (hOpens : ¬(name = "else" ∨ some name = closing))
    (hTag : Dict.get? env.tags name = some tag) (hFault : FaultAt env (some (endName name)) front m back e) :
    FaultAt env closing (.tag name header line :: front) m back e
  | alternative {closing : Option String} {name : String} {tag : BlockTag} {inside front back : List Markup}
    {body : List Node} {m : Markup} {e : Error} (header elseHeader : String) (line elseLine : Nat)
    (hOpens : ¬(name = "else" ∨ some name = closing)) (hTag : Dict.get? env.tags name = some tag)
    (hBody : ReadsAs env (some (endName name)) inside body)
    (hFault : FaultAt env (some (endName name)) front m back e) :
    FaultAt env closing (.tag name header line :: (inside ++ .tag "else" elseHeader elseLine :: front)) m back e
  | later {closing : Option String} {before front back : List Markup} {nodes : List Node} {m : Markup} {e : Error}
    (hBefore : ReadsAs env closing before nodes) (hFault : FaultAt env closing front m back e) :
    FaultAt env closing (before ++ front) m back e

/-- The markup of a whole template has a fault at a piece of it: one inside the template, or an `else` of no block. -/
inductive TemplateFault (env : Environment) : List Markup → Markup → List Markup → Error → Prop where
  | inside {front back : List Markup} {m : Markup} {e : Error} (hFault : FaultAt env none front m back e) :
    TemplateFault env front m back e
  | strayElse {front : List Markup} {nodes : List Node} (header : String) (line : Nat) (back : List Markup)
    (hFront : ReadsAs env none front nodes) :
    TemplateFault env front (.tag "else" header line) back (.unbalanced (.strayTag "else") line)

/-! ## Lines -/

/-- The line of an output statement or a tag. -/
def Markup.line? : Markup → Option Nat
  | .text _ => none
  | .output _ line => some line
  | .tag _ _ line => some line

/-- The line that an error of reading names. -/
def Error.line? : Error → Option Nat
  | .malformed _ line => line
  | .unbalanced _ line => some line
  | _ => none

section Lines

variable {env : Environment} {closing : Option String} {front back : List Markup} {m : Markup} {e : Error}

theorem FaultAt.exists_line (h : FaultAt env closing front m back e) :
    ∃ line, m.line? = some line ∧ e.line? = some line := by
  induction h with
  | body _ _ _ _ _ ih => exact ih
  | alternative _ _ _ _ _ _ _ _ ih => exact ih
  | later _ _ ih => exact ih
  | _ => exact ⟨_, rfl, rfl⟩

/-- A fault is reported with the line of the piece that it is at. -/
theorem TemplateFault.exists_line (h : TemplateFault env front m back e) :
    ∃ line, m.line? = some line ∧ e.line? = some line := by
  cases h with
  | inside hFault => exact hFault.exists_line
  | strayElse => exact ⟨_, rfl, rfl⟩

end Lines

/-! ## Faults are reported -/

section Reported

variable {env : Environment}

theorem eq_error_of_atLine {α : Type} {line : Nat} {x : Checked α} {e : Error} (h : atLine line x = .error e) :
    ∃ cause, x = .error cause ∧ e = .malformed cause (some line) := by
  cases x <;> cases h
  exact ⟨_, rfl, rfl⟩

variable {name : String} {inside : List Markup} {body : List Node}

theorem ReadsInside.readBranches_closed {alternative : Option (List Node)}
    (h : ReadsInside env name inside body alternative) (line : Nat) (endHeader : String) (endLine : Nat)
    (rest : List Markup) (fuel : Nat)
    (hFuel : (inside ++ .tag (endName name) endHeader endLine :: rest).length ≤ fuel) :
    readBranches (fun e => readBlock env fuel (some e)) name line
      (inside ++ .tag (endName name) endHeader endLine :: rest) = .ok (body, alternative, rest) := by
  have hEnd := stops_endTag name endHeader endLine rest
  cases h with
  | body hBody =>
    simp only [readBranches, hBody.readBlock_eq hEnd fuel hFuel, ok_bind, if_neg (endName_ne_else name)]
    rfl
  | @branches inside other body alternative elseHeader elseLine hBody hAlternative =>
    simp only [List.append_assoc, List.cons_append, List.length_append, List.length_cons] at hFuel
    have hElse := stops_else (some (endName name)) elseHeader elseLine
      (other ++ .tag (endName name) endHeader endLine :: rest)
    have hBodyRead := hBody.readBlock_eq hElse fuel (by simp; omega)
    have hAlternativeRead := hAlternative.readBlock_eq hEnd fuel (by simp; omega)
    simp only [readBranches, List.append_assoc, List.cons_append, hBodyRead, hAlternativeRead, ok_bind, if_true,
      if_neg (endName_ne_else name)]
    rfl

theorem ReadsInside.readBranches_ended {alternative : Option (List Node)}
    (h : ReadsInside env name inside body alternative) (line fuel : Nat) (hFuel : inside.length ≤ fuel) :
    readBranches (fun e => readBlock env fuel (some e)) name line inside = .error (missingEnd name line) := by
  cases h with
  | body hBody =>
    have hBodyRead := hBody.readBlock_eq .ended fuel (by simpa using hFuel)
    rw [List.append_nil] at hBodyRead
    simp only [readBranches, hBodyRead, ok_bind]
    rfl
  | @branches inside other body alternative elseHeader elseLine hBody hAlternative =>
    simp only [List.length_append, List.length_cons] at hFuel
    have hElse := stops_else (some (endName name)) elseHeader elseLine other
    have hBodyRead := hBody.readBlock_eq hElse fuel (by simp; omega)
    have hAlternativeRead := hAlternative.readBlock_eq .ended fuel (by simp; omega)
    rw [List.append_nil] at hAlternativeRead
    simp only [readBranches, hBodyRead, hAlternativeRead, ok_bind, if_true]
    rfl

theorem ReadsInside.readBranches_secondElse {alternative : List Node}
    (h : ReadsInside env name inside body (some alternative)) (line : Nat) (elseHeader : String) (elseLine : Nat)
    (rest : List Markup) (fuel : Nat) (hFuel : (inside ++ .tag "else" elseHeader elseLine :: rest).length ≤ fuel) :
    readBranches (fun e => readBlock env fuel (some e)) name line (inside ++ .tag "else" elseHeader elseLine :: rest) =
      .error (.unbalanced .secondElse elseLine) := by
  cases h with
  | @branches inside other body alternative firstHeader firstLine hBody hAlternative =>
    simp only [List.append_assoc, List.cons_append, List.length_append, List.length_cons] at hFuel
    have hFirst := stops_else (some (endName name)) firstHeader firstLine
      (other ++ .tag "else" elseHeader elseLine :: rest)
    have hSecond := stops_else (some (endName name)) elseHeader elseLine rest
    have hBodyRead := hBody.readBlock_eq hFirst fuel (by simp; omega)
    have hAlternativeRead := hAlternative.readBlock_eq hSecond fuel (by simp; omega)
    simp only [readBranches, List.append_assoc, List.cons_append, hBodyRead, hAlternativeRead, ok_bind, if_true]
    rfl

/-- An error behind markup that reads as nodes is the error of all. -/
theorem ReadsAs.readBlock_eq_error {closing : Option String} {before rest : List Markup} {nodes : List Node} {e : Error}
    (h : ReadsAs env closing before nodes)
    (hRest : ∀ fuel, rest.length ≤ fuel → readBlock env fuel closing rest = .error e) (fuel : Nat)
    (hFuel : (before ++ rest).length ≤ fuel) : readBlock env fuel closing (before ++ rest) = .error e := by
  induction h generalizing fuel with
  | nil => exact hRest fuel hFuel
  | text content _ ih =>
    cases fuel with
    | zero => simp at hFuel
    | succ fuel =>
      have hMore := ih hRest fuel (Nat.le_of_succ_le_succ hFuel)
      simp only [List.cons_append, readBlock, hMore, error_bind]
  | output line hPipeline _ ih =>
    cases fuel with
    | zero => simp at hFuel
    | succ fuel =>
      have hMore := ih hRest fuel (Nat.le_of_succ_le_succ hFuel)
      simp only [List.cons_append, readBlock, hPipeline, atLine, hMore, ok_bind, error_bind]
  | @loop _ _ _ endHeader line endLine _ _ _ after _ _ hOpens hTag hHeader hBody _ _ ih =>
    cases fuel with
    | zero => simp at hFuel
    | succ fuel =>
      simp only [List.cons_append, List.append_assoc, List.length_cons, List.length_append] at hFuel
      have hBranches := (ReadsInside.body hBody).readBranches_closed line endHeader endLine (after ++ rest) fuel
        (by simp; omega)
      have hMore := ih hRest fuel (by simp; omega)
      simp only [List.cons_append, List.append_assoc, readBlock, if_neg hOpens, hTag, hBranches, ok_bind, hHeader,
        atLine, hMore, error_bind]
  | @loopElse _ _ _ elseHeader endHeader line elseLine endLine _ _ _ _ after _ _ _ hOpens hTag hHeader hBody
      hAlternative _ _ _ ih =>
    cases fuel with
    | zero => simp at hFuel
    | succ fuel =>
      simp only [List.cons_append, List.append_assoc, List.length_cons, List.length_append] at hFuel
      have hBranches := (ReadsInside.branches elseHeader elseLine hBody hAlternative).readBranches_closed line endHeader
        endLine (after ++ rest) fuel (by simp; omega)
      simp only [List.append_assoc, List.cons_append] at hBranches
      have hMore := ih hRest fuel (by simp; omega)
      simp only [List.cons_append, List.append_assoc, readBlock, if_neg hOpens, hTag, hBranches, ok_bind, hHeader,
        atLine, hMore, error_bind]

theorem readBranches_eq_error {block : String → List Markup → Except Error Block} {ms : List Markup} {line : Nat}
    {e : Error} (h : block (endName name) ms = .error e) : readBranches block name line ms = .error e := by
  rw [readBranches, h]
  rfl

theorem readBlock_eq_error_of_branches {closing : Option String} {header : String} {line fuel : Nat} {tag : BlockTag}
    {ms : List Markup} {e : Error} (hOpens : ¬(name = "else" ∨ some name = closing))
    (hTag : Dict.get? env.tags name = some tag)
    (hBranches : readBranches (fun e => readBlock env fuel (some e)) name line ms = .error e) :
    readBlock env (fuel + 1) closing (.tag name header line :: ms) = .error e := by
  rw [readBlock, if_neg hOpens, hTag]
  simp only [hBranches, error_bind]

theorem FaultAt.readBlock_eq {closing : Option String} {front back : List Markup} {m : Markup} {e : Error}
    (h : FaultAt env closing front m back e) (fuel : Nat) (hFuel : (front ++ m :: back).length ≤ fuel) :
    readBlock env fuel closing (front ++ m :: back) = .error e := by
  induction h generalizing fuel with
  | later hBefore _ ih =>
    rw [List.append_assoc] at hFuel ⊢
    exact hBefore.readBlock_eq_error (fun _ => ih _) fuel hFuel
  | output back hPipeline =>
    cases fuel with
    | zero => simp at hFuel
    | succ fuel =>
      rw [List.nil_append, readBlock, hPipeline]
      rfl
  | unknownTag header line back hOpens hTag =>
    cases fuel with
    | zero => simp at hFuel
    | succ fuel => rw [List.nil_append, readBlock, if_neg hOpens, hTag]
  | missingEnd header line hOpens hTag hInside =>
    cases fuel with
    | zero => simp at hFuel
    | succ fuel =>
      exact readBlock_eq_error_of_branches hOpens hTag (hInside.readBranches_ended line fuel (Nat.le_of_succ_le_succ hFuel))
  | @header _ _ _ line _ _ _ _ _ endHeader endLine rest hOpens hTag hInside hHeader =>
    cases fuel with
    | zero => simp at hFuel
    | succ fuel =>
      have hBranches := hInside.readBranches_closed line endHeader endLine rest fuel (Nat.le_of_succ_le_succ hFuel)
      rw [List.nil_append, readBlock, if_neg hOpens, hTag]
      simp only [hBranches, ok_bind, hHeader, atLine, error_bind]
  | secondElse header elseHeader line elseLine back hOpens hTag hInside =>
    cases fuel with
    | zero => simp at hFuel
    | succ fuel =>
      have hBranches := hInside.readBranches_secondElse line elseHeader elseLine back fuel (Nat.le_of_succ_le_succ hFuel)
      exact readBlock_eq_error_of_branches hOpens hTag hBranches
  | body header line hOpens hTag _ ih =>
    cases fuel with
    | zero => simp at hFuel
    | succ fuel =>
      have hBody := ih fuel (Nat.le_of_succ_le_succ hFuel)
      exact readBlock_eq_error_of_branches hOpens hTag (readBranches_eq_error hBody)
  | @alternative _ name _ inside front back _ m _ header elseHeader line elseLine hOpens hTag hBody _ ih =>
    cases fuel with
    | zero => simp at hFuel
    | succ fuel =>
      simp only [List.cons_append, List.append_assoc, List.length_cons, List.length_append] at hFuel
      have hElse := stops_else (some (endName name)) elseHeader elseLine (front ++ m :: back)
      have hBodyRead := hBody.readBlock_eq hElse fuel (by simp; omega)
      have hAlternative := ih fuel (by simp; omega)
      rw [List.cons_append, List.append_assoc, List.cons_append]
      refine readBlock_eq_error_of_branches hOpens hTag ?_
      simp only [readBranches, hBodyRead, ok_bind, if_true, hAlternative, error_bind]

end Reported

/-! ## What is reported is a fault -/

section Found

variable {env : Environment}

theorem exists_faultAt_of_readBranches {block : String → List Markup → Except Error Block} {bound : Nat}
    (hFault : ∀ closing ms e, ms.length ≤ bound → block closing ms = .error e →
      ∃ front m back, ms = front ++ m :: back ∧ FaultAt env (some closing) front m back e)
    (hBlock : ∀ closing ms nodes stop rest, ms.length ≤ bound → block closing ms = .ok (nodes, stop, rest) →
      ∃ inside tail, ms = inside ++ tail ∧ ReadsAs env (some closing) inside nodes ∧
        Stops (some closing) stop tail rest)
    {closing : Option String} {name header : String} {line : Nat} {tag : BlockTag} {ms : List Markup} {e : Error}
    (hOpens : ¬(name = "else" ∨ some name = closing)) (hTag : Dict.get? env.tags name = some tag)
    (hBound : ms.length ≤ bound) (h : readBranches block name line ms = .error e) :
    ∃ front m back, .tag name header line :: ms = front ++ m :: back ∧ FaultAt env closing front m back e := by
  rcases bind_eq_error.1 h with hBody | ⟨⟨body, stop, after⟩, hBody, hBranch⟩
  · obtain ⟨front, m, back, rfl, hInner⟩ := hFault _ _ _ hBound hBody
    exact ⟨_, m, back, rfl, .body header line hOpens hTag hInner⟩
  · obtain ⟨inside, tail, rfl, hInside, hStop⟩ := hBlock _ _ _ _ _ hBound hBody
    cases hStop with
    | ended =>
      cases hBranch
      rw [List.append_nil]
      exact ⟨[], _, inside, rfl, .missingEnd header line hOpens hTag (.body hInside)⟩
    | @stopped stopName elseHeader elseLine _ hStop =>
      by_cases hElse : stopName = "else"
      · simp only [hElse, if_true] at hBranch
        subst hElse
        have hShorter : after.length ≤ bound := by
          simp only [List.length_append, List.length_cons] at hBound
          omega
        rcases bind_eq_error.1 hBranch with hAlternative | ⟨⟨alternative, stop, after'⟩, hAlternative, hEnd⟩
        · obtain ⟨front, m, back, rfl, hInner⟩ := hFault _ _ _ hShorter hAlternative
          refine ⟨_, m, back, ?_, .alternative header elseHeader line elseLine hOpens hTag hInside hInner⟩
          rw [List.cons_append, List.append_assoc, List.cons_append]
        · obtain ⟨other, tail, rfl, hOther, hStop'⟩ := hBlock _ _ _ _ _ hShorter hAlternative
          have hBranches := ReadsInside.branches elseHeader elseLine hInside hOther
          cases hStop' with
          | ended =>
            cases hEnd
            rw [List.append_nil]
            exact ⟨[], _, _, rfl, .missingEnd header line hOpens hTag hBranches⟩
          | @stopped secondName secondHeader secondLine _ hStop' =>
            by_cases hAgain : secondName = "else"
            · simp only [hAgain, if_true] at hEnd
              cases hEnd
              subst hAgain
              refine ⟨_, _, after', ?_, .secondElse header secondHeader line secondLine after' hOpens hTag hBranches⟩
              rw [List.cons_append, List.append_assoc, List.cons_append]
            · simp only [hAgain, if_false] at hEnd
              cases hEnd
      · simp only [hElse, if_false] at hBranch
        cases hBranch

/-- What a block fails with is a fault of its markup. -/
theorem exists_faultAt_of_readBlock {fuel : Nat} {closing : Option String} {ms : List Markup} {e : Error}
    (hFuel : ms.length ≤ fuel) (h : readBlock env fuel closing ms = .error e) :
    ∃ front m back, ms = front ++ m :: back ∧ FaultAt env closing front m back e := by
  induction fuel generalizing closing ms e with
  | zero => cases h
  | succ fuel ih =>
    cases ms with
    | nil => cases h
    | cons m ms =>
      have hShorter : ms.length ≤ fuel := Nat.le_of_succ_le_succ hFuel
      cases m with
      | text content =>
        rcases bind_eq_error.1 h with hRest | ⟨_, -, h⟩
        · obtain ⟨front, m, back, rfl, hFault⟩ := ih hShorter hRest
          exact ⟨_, m, back, rfl, .later (.text content (.nil closing)) hFault⟩
        · cases h
      | output source line =>
        rcases bind_eq_error.1 h with hPipeline | ⟨pipeline, hPipeline, h⟩
        · obtain ⟨cause, hCause, rfl⟩ := eq_error_of_atLine hPipeline
          exact ⟨[], _, ms, rfl, .output ms hCause⟩
        · rcases bind_eq_error.1 h with hRest | ⟨_, -, h⟩
          · obtain ⟨front, m, back, rfl, hFault⟩ := ih hShorter hRest
            exact ⟨_, m, back, rfl, .later (.output line (eq_ok_of_atLine hPipeline) (.nil closing)) hFault⟩
          · cases h
      | tag name header line =>
        rw [readBlock] at h
        by_cases hOpens : name = "else" ∨ some name = closing
        · simp only [hOpens, if_true] at h
          cases h
        · simp only [hOpens, if_false] at h
          cases hTag : Dict.get? env.tags name with
          | none =>
            rw [hTag] at h
            cases h
            exact ⟨[], _, ms, rfl, .unknownTag header line ms hOpens hTag⟩
          | some tag =>
            rw [hTag] at h
            -- A header is read after its block, so a fault inside the block comes first, and one behind it last.
            rcases bind_eq_error.1 h with hBranches | ⟨⟨body, alternative, after⟩, hBranches, hLoop⟩
            · exact exists_faultAt_of_readBranches (fun _ _ _ => ih)
                (fun _ _ _ _ _ => exists_readsAs_of_readBlock) hOpens hTag hShorter hBranches
            · obtain ⟨inside, endHeader, endLine, rfl, hInside⟩ :=
                readsInside_of_readBranches (fun _ _ _ _ _ => exists_readsAs_of_readBlock) hShorter hBranches
              rcases bind_eq_error.1 hLoop with hHeader | ⟨loopHeader, hHeader, hNodes⟩
              · obtain ⟨cause, hCause, rfl⟩ := eq_error_of_atLine hHeader
                exact ⟨[], _, _, rfl, .header endHeader endLine after hOpens hTag hInside hCause⟩
              · rcases bind_eq_error.1 hNodes with hRest | ⟨_, -, hNone⟩
                · have hAfter : after.length ≤ fuel := by
                    simp only [List.length_append, List.length_cons] at hShorter
                    omega
                  obtain ⟨front, m, back, rfl, hFault⟩ := ih hAfter hRest
                  have hLoop := hInside.readsAs hOpens hTag (eq_ok_of_atLine hHeader) (.nil closing) line endLine
                    endHeader
                  exact ⟨_, m, back, by simp, .later hLoop hFault⟩
                · cases hNone

/-- Reading markup fails just with its faults. -/
theorem nodesOfMarkup_eq_error_iff {ms : List Markup} {e : Error} :
    nodesOfMarkup env ms = .error e ↔ ∃ front m back, ms = front ++ m :: back ∧ TemplateFault env front m back e := by
  constructor
  · intro h
    rcases bind_eq_error.1 h with hRead | ⟨⟨nodes, stop, rest⟩, hRead, hStop⟩
    · obtain ⟨front, m, back, hSplit, hFault⟩ := exists_faultAt_of_readBlock (Nat.le_succ _) hRead
      exact ⟨front, m, back, hSplit, .inside hFault⟩
    · obtain ⟨inside, tail, hSplit, hInside, hStops⟩ := exists_readsAs_of_readBlock (Nat.le_succ _) hRead
      cases hStops with
      | ended => cases hStop
      | stopped header line _ hElse =>
        obtain rfl : _ = "else" := hElse.resolve_right fun hNone => by cases hNone
        cases hStop
        exact ⟨inside, _, rest, hSplit, .strayElse header line rest hInside⟩
  · rintro ⟨front, m, back, rfl, hFault⟩
    cases hFault with
    | inside hFault =>
      rw [nodesOfMarkup, hFault.readBlock_eq _ (Nat.le_succ _)]
      rfl
    | strayElse header line _ hFront =>
      rw [nodesOfMarkup, hFront.readBlock_eq (stops_else none header line back) _ (Nat.le_succ _)]
      rfl

end Found

end TemplateQuery.Template
