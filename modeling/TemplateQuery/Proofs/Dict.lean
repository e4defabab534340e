import Mathlib.Data.List.Basic
import TemplateQuery.Dict

/-!
# Dictionaries under changes

One value changes when an entry is put; all of them may change when a function is applied to each. No change makes a key
appear twice, and without such keys the order of the entries has no part in looking one up. Merging lets the later value
win and the earlier place stay.
-/
namespace TemplateQuery.Dict

variable {α β : Type}

theorem get?_put (d : Dict α) (key other : String) (value : α) :
    get? (put d key value) other = if key = other then some value else get? d other := by
  induction d with
  | nil => rfl
  | cons entry rest ih =>
    obtain ⟨k, v⟩ := entry
    by_cases h : k = key
    · subst h
      by_cases hOther : k = other
      · simp [put, get?, hOther]
      · simp [put, get?, hOther]
    · by_cases hOther : k = other
      · subst hOther
        simp [put, get?, h, Ne.symm h]
      · simpa [put, get?, h, hOther] using ih

/-- The same keys in the same order, with other values. -/
def mapValues (f : α → β) (d : Dict α) : Dict β := d.map fun entry => (entry.1, f entry.2)

@[simp] theorem get?_mapValues (f : α → β) (d : Dict α) (key : String) :
    get? (mapValues f d) key = (get? d key).map f := by
  induction d with
  | nil => rfl
  | cons entry rest ih =>
    by_cases h : entry.1 = key
    · simp [mapValues, get?, h]
    · simpa [mapValues, get?, h] using ih

theorem mapValues_put (f : α → β) (d : Dict α) (key : String) (value : α) :
    mapValues f (put d key value) = put (mapValues f d) key (f value) := by
  induction d with
  | nil => rfl
  | cons entry rest ih =>
    by_cases h : entry.1 = key
    · simp [mapValues, put, h]
    · simpa [mapValues, put, h] using ih

/-! ## Keys that appear once -/

section Keys

variable {d d' : Dict α} {key : String} {value : α}

theorem mem_of_get? (h : get? d key = some value) : (key, value) ∈ d := by
  induction d with
  | nil => cases h
  | cons entry rest ih =>
    by_cases hKey : entry.1 = key
    · rw [get?, if_pos hKey] at h
      cases h
      subst hKey
      exact List.mem_cons_self
    · rw [get?, if_neg hKey] at h
      exact List.mem_cons_of_mem _ (ih h)

theorem mem_values_of_get? (h : get? d key = some value) : value ∈ values d := List.mem_map.2 ⟨_, mem_of_get? h, rfl⟩

theorem get?_eq_none_iff : get? d key = none ↔ key ∉ keys d := by
  induction d with
  | nil => simp [get?, keys]
  | cons entry rest ih =>
    by_cases hKey : entry.1 = key
    · simp [get?, keys, hKey]
    · simpa [get?, keys, hKey, Ne.symm hKey] using ih

theorem get?_eq_some_iff (hKeys : (keys d).Nodup) : get? d key = some value ↔ (key, value) ∈ d := by
  refine ⟨mem_of_get?, fun h => ?_⟩
  induction d with
  | nil => cases h
  | cons entry rest ih =>
    rw [keys, List.map_cons, List.nodup_cons] at hKeys
    rw [List.mem_cons] at h
    rcases h with rfl | h
    · rw [get?, if_pos rfl]
    · have hKey : entry.1 ≠ key := by
        rintro rfl
        exact hKeys.1 (List.mem_map.2 ⟨_, h, rfl⟩)
      rw [get?, if_neg hKey]
      exact ih hKeys.2 h

theorem get?_perm (hKeys : (keys d).Nodup) (h : d.Perm d') (key : String) : get? d key = get? d' key := by
  have hKeys' : (keys d').Nodup := (h.map _).nodup hKeys
  ext value
  rw [get?_eq_some_iff hKeys, get?_eq_some_iff hKeys', h.mem_iff]

theorem mem_keys_put {other : String} : other ∈ keys (put d key value) ↔ other = key ∨ other ∈ keys d := by
  rw [← Decidable.not_iff_not, not_or, ← get?_eq_none_iff, ← get?_eq_none_iff, get?_put]
  by_cases h : key = other
  · simp [h]
  · simp [h, Ne.symm h]

theorem nodup_keys_put (h : (keys d).Nodup) : (keys (put d key value)).Nodup := by
  induction d with
  | nil => simp [put, keys]
  | cons entry rest ih =>
    obtain ⟨k, v⟩ := entry
    by_cases hKey : k = key
    · rw [put, if_pos hKey]
      exact h
    · rw [keys, List.map_cons, List.nodup_cons] at h
      rw [put, if_neg hKey, keys, List.map_cons, List.nodup_cons]
      refine ⟨fun hMem => ?_, ih h.2⟩
      exact (mem_keys_put.1 hMem).elim hKey h.1

theorem mem_values_put {x : α} (h : x ∈ values (put d key value)) : x = value ∨ x ∈ values d := by
  induction d with
  | nil => simpa [put, values] using h
  | cons entry rest ih =>
    by_cases hKey : entry.1 = key
    · rw [put, if_pos hKey, values, List.map_cons, List.mem_cons] at h
      exact h.imp_right (List.mem_cons_of_mem _)
    · rw [put, if_neg hKey, values, List.map_cons, List.mem_cons] at h
      rcases h with rfl | h
      · exact .inr List.mem_cons_self
      · exact (ih h).imp_right (List.mem_cons_of_mem _)

end Keys

/-! ## Merging -/

section Merging

variable {d more : Dict α}

theorem merge_cons (d : Dict α) (key : String) (value : α) (more : Dict α) :
    merge d ((key, value) :: more) = merge (put d key value) more := rfl

theorem nodup_keys_merge (h : (keys d).Nodup) : (keys (merge d more)).Nodup := by
  induction more generalizing d with
  | nil => exact h
  | cons entry more ih => exact ih (nodup_keys_put h)

/-- Of two values for a key the one that was merged in stays. -/
theorem get?_merge (h : (keys more).Nodup) (d : Dict α) (key : String) :
    get? (merge d more) key = (get? more key).or (get? d key) := by
  induction more generalizing d with
  | nil => rfl
  | cons entry more ih =>
    obtain ⟨k, v⟩ := entry
    rw [keys, List.map_cons, List.nodup_cons] at h
    rw [merge_cons, ih h.2, get?_put]
    by_cases hKey : k = key
    · subst hKey
      have hNone : get? more k = none := get?_eq_none_iff.2 h.1
      simp [get?, hNone]
    · simp [get?, hKey]

theorem keys_cons (key : String) (value : α) (d : Dict α) : keys ((key, value) :: d) = key :: keys d := rfl

theorem keys_put (d : Dict α) (key : String) (value : α) :
    keys (put d key value) = if key ∈ keys d then keys d else keys d ++ [key] := by
  induction d with
  | nil => rfl
  | cons entry rest ih =>
    obtain ⟨k, v⟩ := entry
    by_cases hKey : k = key
    · simp [put, hKey, keys_cons]
    · rw [put, if_neg hKey, keys_cons, keys_cons, ih]
      by_cases hMem : key ∈ keys rest
      · simp [hMem]
      · simp [hMem, Ne.symm hKey]

theorem eraseDups_of_nodup {l : List String} (h : l.Nodup) : l.eraseDups = l := by
  induction l with
  | nil => simp
  | cons a l ih =>
    rw [List.nodup_cons] at h
    have hKeep : l.filter (fun b => !b == a) = l := by
      rw [List.filter_eq_self]
      intro b hb
      have hNe : b ≠ a := by
        rintro rfl
        exact h.1 hb
      simp [hNe]
    rw [List.eraseDups_cons, hKeep, ih h.2]

/-- A key keeps the place where it first appeared. -/
theorem keys_merge (h : (keys d).Nodup) : keys (merge d more) = (keys d ++ keys more).eraseDups := by
  induction more generalizing d with
  | nil =>
    have hSame : keys d ++ keys ([] : Dict α) = keys d := List.append_nil _
    rw [hSame, eraseDups_of_nodup h]
    rfl
  | cons entry more ih =>
    obtain ⟨k, v⟩ := entry
    rw [merge_cons, ih (nodup_keys_put h), keys_put, keys_cons]
    by_cases hMem : k ∈ keys d
    · simp [hMem, List.eraseDups_append, List.cons_removeAll]
    · simp [hMem]

theorem values_eq_filterMap (h : (keys d).Nodup) : values d = (keys d).filterMap (get? d) := by
  induction d with
  | nil => rfl
  | cons entry rest ih =>
    obtain ⟨k, v⟩ := entry
    rw [keys_cons, List.nodup_cons] at h
    have hRest : ∀ key ∈ keys rest, get? ((k, v) :: rest) key = get? rest key := by
      intro key hKey
      have hNe : k ≠ key := by
        rintro rfl
        exact h.1 hKey
      simp [get?, hNe]
    have hHead : get? ((k, v) :: rest) k = some v := by simp [get?]
    have hValues : values ((k, v) :: rest) = v :: values rest := rfl
    rw [hValues, keys_cons, List.filterMap_cons_some hHead, List.filterMap_congr hRest, ih h.2]

end Merging

end TemplateQuery.Dict
