import TemplateQuery.Proofs.Steps
import TemplateQuery.Template.Basic

/-!
# Reading in other environments

Reading a template looks at nothing in the environment but its tags, and at a tag only to read the headers that the
template gives it. Two environments whose tags read these headers alike read the template alike.
-/
namespace TemplateQuery.Template

/-- The globals of a template have no part in reading it. -/
theorem ofText_eq_map (env : Environment) (source : String) (globals : Dict Json) :
    Template.ofText env source globals =
      (scan source >>= nodesOfMarkup env).map fun nodes => ⟨env, nodes, globals⟩ := by
  rw [map_bind_eq]
  rfl

/-- Each tag of the markup is unknown to both environments, or both read its header with the same outcome. -/
def ReadsAlike (env env' : Environment) (ms : List Markup) : Prop :=
  ∀ name header line, .tag name header line ∈ ms →
    (Dict.get? env.tags name).map (LoopHeader.ofText · header) =
      (Dict.get? env'.tags name).map (LoopHeader.ofText · header)

theorem readsAlike_of_tags {env env' : Environment} (h : env.tags = env'.tags) (ms : List Markup) :
    ReadsAlike env env' ms := by
  intro name header line _
  rw [h]

theorem ReadsAlike.suffix {env env' : Environment} {ms rest : List Markup} (h : ReadsAlike env env' ms)
    (hRest : rest <:+ ms) : ReadsAlike env env' rest :=
  fun name header line hTag => h name header line (hRest.subset hTag)

/-! ## What is left after a block -/

theorem rest_suffix_of_readBranches {block : String → List Markup → Except Error Block}
    (hBlock : ∀ endTag ms b, block endTag ms = .ok b → b.2.2 <:+ ms) {name : String} {line : Nat} {ms : List Markup}
    {branches : Branches} (h : readBranches block name line ms = .ok branches) : branches.2.2 <:+ ms := by
  obtain ⟨⟨body, stop, rest⟩, hBody, h⟩ := bind_eq_ok.1 h
  have hRest : rest <:+ ms := hBlock _ _ _ hBody
  cases stop with
  | none => cases h
  | some stop =>
    by_cases hElse : stop.name = "else"
    · simp only [hElse, if_true] at h
      obtain ⟨⟨alternative, stop, after⟩, hAlternative, h⟩ := bind_eq_ok.1 h
      have hAfter : after <:+ rest := hBlock _ _ _ hAlternative
      cases stop with
      | none => cases h
      | some stop =>
        simp only at h
        split at h <;> cases h
        exact hAfter.trans hRest
    · simp only [hElse, if_false] at h
      cases h
      exact hRest

/-- A block leaves the end of the markup that it was given. -/
theorem rest_suffix_of_readBlock {env : Environment} {fuel : Nat} {endTag : Option String} {ms : List Markup}
    {block : Block} (h : readBlock env fuel endTag ms = .ok block) : block.2.2 <:+ ms := by
  induction fuel generalizing endTag ms block with
  | zero =>
    cases h
    exact List.suffix_refl ms
  | succ fuel ih =>
    cases ms with
    | nil =>
      cases h
      exact List.suffix_refl []
    | cons m rest =>
      cases m with
      | text content =>
        obtain ⟨inner, hInner, h⟩ := bind_eq_ok.1 h
        cases h
        exact (ih hInner).trans (List.suffix_cons _ _)
      | output source line =>
        obtain ⟨pipeline, -, h⟩ := bind_eq_ok.1 h
        obtain ⟨inner, hInner, h⟩ := bind_eq_ok.1 h
        cases h
        exact (ih hInner).trans (List.suffix_cons _ _)
      | tag name header line =>
        rw [readBlock] at h
        by_cases hStop : name = "else" ∨ some name = endTag
        · simp only [hStop, if_true] at h
          cases h
          exact List.suffix_cons _ _
        · simp only [hStop, if_false] at h
          cases hTag : Dict.get? env.tags name with
          | none =>
            rw [hTag] at h
            cases h
          | some tag =>
            rw [hTag] at h
            obtain ⟨⟨body, alternative, after⟩, hBranches, h⟩ := bind_eq_ok.1 h
            obtain ⟨loopHeader, -, h⟩ := bind_eq_ok.1 h
            obtain ⟨inner, hInner, h⟩ := bind_eq_ok.1 h
            cases h
            have hAfter : after <:+ rest := rest_suffix_of_readBranches (fun _ _ _ => ih) hBranches
            exact ((ih hInner).trans hAfter).trans (List.suffix_cons _ _)

/-! ## The same reading -/

theorem readBranches_congr {block block' : String → List Markup → Except Error Block}
    (hBlock : ∀ endTag ms b, block endTag ms = .ok b → b.2.2 <:+ ms) {name : String} {line : Nat} {ms : List Markup}
    (h : ∀ endTag rest, rest <:+ ms → block endTag rest = block' endTag rest) :
    readBranches block name line ms = readBranches block' name line ms := by
  rw [readBranches, readBranches, ← h _ ms (List.suffix_refl ms)]
  refine bind_congr_of_ok ?_
  rintro ⟨body, stop, rest⟩ hBody
  cases stop with
  | none => rfl
  | some stop => simp only [h (endName name) rest (hBlock _ _ _ hBody)]

theorem readBlock_congr {env env' : Environment} {ms : List Markup} (h : ReadsAlike env env' ms) (fuel : Nat)
    (endTag : Option String) : readBlock env fuel endTag ms = readBlock env' fuel endTag ms := by
  induction fuel generalizing endTag ms with
  | zero => rfl
  | succ fuel ih =>
    cases ms with
    | nil => rfl
    | cons m rest =>
      have hRest : ReadsAlike env env' rest := h.suffix (List.suffix_cons m rest)
      cases m with
      | text content => rw [readBlock, readBlock, ih hRest]
      | output source line => simp only [readBlock, ih hRest]
      | tag name header line =>
        rw [readBlock, readBlock]
        by_cases hStop : name = "else" ∨ some name = endTag
        · simp only [hStop, if_true]
        · simp only [hStop, if_false]
          have hTag := h name header line List.mem_cons_self
          cases hGet : Dict.get? env.tags name with
          | none =>
            rw [hGet, Option.map_none, eq_comm, Option.map_eq_none_iff] at hTag
            rw [hTag]
          | some tag =>
            rw [hGet, Option.map_some, eq_comm, Option.map_eq_some_iff] at hTag
            obtain ⟨tag', hGet', hHeader⟩ := hTag
            rw [hGet']
            have hBranches : readBranches (fun e => readBlock env fuel (some e)) name line rest =
                readBranches (fun e => readBlock env' fuel (some e)) name line rest :=
              readBranches_congr (fun _ _ _ => rest_suffix_of_readBlock) fun _ _ hSuffix => ih (hRest.suffix hSuffix) _
            simp only [← hBranches, hHeader]
            refine bind_congr_of_ok ?_
            rintro ⟨body, alternative, after⟩ hRead
            have hAfter : after <:+ rest := rest_suffix_of_readBranches (fun _ _ _ => rest_suffix_of_readBlock) hRead
            rw [ih (hRest.suffix hAfter)]

/-- Environments that read the tags of some markup alike read the whole markup alike. -/
theorem nodesOfMarkup_congr {env env' : Environment} {ms : List Markup} (h : ReadsAlike env env' ms) :
    nodesOfMarkup env ms = nodesOfMarkup env' ms := by
  rw [nodesOfMarkup, nodesOfMarkup, readBlock_congr h]

end TemplateQuery.Template
