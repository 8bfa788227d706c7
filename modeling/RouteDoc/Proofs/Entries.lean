import Mathlib.Data.List.Nodup
import RouteDoc.Entries

namespace RouteDoc

/-- A list with an element of some kind has a last one of that kind. -/
theorem exists_last {α : Type} {P : α → Prop} {list : List α} (h : ∃ element ∈ list, P element) :
    ∃ before last rest, list = before ++ last :: rest ∧ P last ∧ ∀ later ∈ rest, ¬P later := by
  induction list with
  | nil => simp at h
  | cons first others ih =>
    by_cases ho : ∃ element ∈ others, P element
    · obtain ⟨before, last, rest, rfl, hl, hr⟩ := ih ho
      exact ⟨first :: before, last, rest, rfl, hl, hr⟩
    · obtain ⟨element, hm, hl⟩ := h
      rcases List.mem_cons.mp hm with rfl | hm
      · exact ⟨[], element, others, rfl, hl, fun later hlater he => ho ⟨later, hlater, he⟩⟩
      · exact absurd ⟨element, hm, hl⟩ ho

namespace Entries

variable {α : Type}

theorem get?_insert (key other : String) (value : α) (entries : Entries α) :
    (entries.insert key value).get? other =
      if key = other then some value else entries.get? other := by
  split
  · rename_i h
    subst h
    exact get?_insert_self key value entries
  · rename_i h
    exact get?_insert_of_ne value entries h

/-- An insertion brings no entry but its own. -/
theorem mem_insert {key : String} {value : α} {entries : Entries α} {entry : String × α}
    (h : entry ∈ entries.insert key value) : entry = (key, value) ∨ entry ∈ entries := by
  induction entries with
  | nil => simpa [insert] using h
  | cons first rest ih =>
    obtain ⟨k, v⟩ := first
    by_cases hk : k = key
    · simp only [insert, hk, ↓reduceIte, List.mem_cons] at h
      rcases h with h | h
      · exact Or.inl h
      · exact Or.inr (List.mem_cons_of_mem _ h)
    · simp only [insert, hk, ↓reduceIte, List.mem_cons] at h
      rcases h with h | h
      · exact Or.inr (h ▸ List.mem_cons_self)
      · exact (ih h).imp_right (List.mem_cons_of_mem _)

theorem mem_of_get? {key : String} {value : α} {entries : Entries α}
    (h : entries.get? key = some value) : (key, value) ∈ entries := by
  induction entries with
  | nil => simp [get?] at h
  | cons first rest ih =>
    obtain ⟨k, v⟩ := first
    by_cases hk : k = key
    · simp only [get?, hk, ↓reduceIte, Option.some.injEq] at h
      simp [hk, h]
    · simp only [get?, hk, ↓reduceIte] at h
      exact List.mem_cons_of_mem _ (ih h)

theorem get?_append (key : String) (entries others : Entries α) :
    get? key (entries ++ others) = (get? key entries).or (get? key others) := by
  induction entries with
  | nil => simp [get?]
  | cons first rest ih =>
    obtain ⟨k, v⟩ := first
    by_cases hk : k = key <;> simp [get?, hk, ih]

/-- New values leave the keys as they are, in their order. -/
theorem keys_map {β : Type} (write : String → α → β) (entries : Entries α) :
    keys (entries.map fun (k, v) => (k, write k v)) = entries.keys := by
  rw [keys, List.map_map]
  rfl

/-- Writing the values of a map does not change which keys it has. -/
theorem get?_map {β : Type} (write : α → β) (key : String) (entries : Entries α) :
    get? key (entries.map fun (k, v) => (k, write v)) = (get? key entries).map write := by
  induction entries with
  | nil => rfl
  | cons first rest ih =>
    obtain ⟨k, v⟩ := first
    by_cases hk : k = key <;> simp [get?, hk, ih]

section Distinct

variable {key other : String} {value : α} {entries : Entries α}

theorem nodup_insert (h : entries.keys.Nodup) : (entries.insert key value).keys.Nodup := by
  rw [keys_insert]
  split
  · exact h
  · rename_i hk
    refine List.nodup_append.mpr ⟨h, List.nodup_singleton key, fun k hm other ho he => ?_⟩
    rw [List.mem_singleton.mp ho] at he
    exact hk (he ▸ hm)

/-- A new key goes last. -/
theorem insert_of_not_mem (h : key ∉ entries.keys) :
    entries.insert key value = entries ++ [(key, value)] := by
  induction entries with
  | nil => rfl
  | cons first rest ih =>
    obtain ⟨k, v⟩ := first
    have hne : k ≠ key := fun he => h (he ▸ List.mem_cons_self)
    have hrest : key ∉ Entries.keys rest := fun hm => h (List.mem_cons_of_mem _ hm)
    rw [insert, if_neg hne, ih hrest, List.cons_append]

theorem mem_keys_of_mem (h : (key, value) ∈ entries) : key ∈ entries.keys :=
  List.mem_map_of_mem h

/-- Where no key stands twice, an entry's key is none of those before it. -/
theorem not_mem_of_nodup_append {before rest : Entries α}
    (h : (keys (before ++ (key, value) :: rest)).Nodup) : key ∉ before.keys := by
  intro hm
  rw [keys, List.map_append] at h
  exact (List.nodup_append.mp h).2.2 key hm key List.mem_cons_self rfl

theorem get?_eq_none_iff : entries.get? key = none ↔ key ∉ entries.keys := by
  induction entries with
  | nil => simp [get?, keys]
  | cons first rest ih =>
    obtain ⟨k, v⟩ := first
    by_cases hk : k = key
    · simp [get?, keys, hk]
    · simpa [get?, keys, hk, Ne.symm hk] using ih

/-- Where no key stands twice, each entry is the one found under its key. -/
theorem get?_eq_some_iff (h : entries.keys.Nodup) :
    entries.get? key = some value ↔ (key, value) ∈ entries := by
  refine ⟨mem_of_get?, fun hm => ?_⟩
  induction entries with
  | nil => cases hm
  | cons first rest ih =>
    obtain ⟨k, v⟩ := first
    obtain ⟨hk, hr⟩ := List.nodup_cons.mp h
    rcases List.mem_cons.mp hm with he | hm
    · cases he
      simp [get?]
    · have hne : k ≠ key := fun he => hk (he ▸ mem_keys_of_mem hm)
      simpa [get?, hne] using ih hr hm

/-- Entries in another order hold the same values. -/
theorem get?_of_perm {others : Entries α} (h : entries.keys.Nodup) (hp : entries.Perm others)
    (key : String) : entries.get? key = others.get? key := by
  have ho : others.keys.Nodup := (hp.map Prod.fst).nodup_iff.mp h
  refine Option.ext fun value => ?_
  rw [get?_eq_some_iff h, get?_eq_some_iff ho, hp.mem_iff]

theorem mem_of_mem_erase {entry : String × α} (h : entry ∈ entries.erase key) :
    entry ∈ entries := by
  induction entries with
  | nil => exact h
  | cons first rest ih =>
    obtain ⟨k, v⟩ := first
    by_cases hk : k = key
    · simp only [erase, hk, ↓reduceIte] at h
      split at h
      · cases h
      · rename_i last hl
        rcases List.mem_cons.mp h with rfl | h
        · exact List.mem_cons_of_mem _ (List.mem_of_getLast? hl)
        · exact List.mem_cons_of_mem _ (List.dropLast_subset _ h)
    · simp only [erase, hk, ↓reduceIte, List.mem_cons] at h
      exact List.mem_cons.mpr (h.imp_right ih)

/-- Nothing is removed, or moved, under a key that does not stand. -/
theorem erase_of_get?_eq_none (h : entries.get? key = none) : entries.erase key = entries := by
  induction entries with
  | nil => rfl
  | cons first rest ih =>
    obtain ⟨k, v⟩ := first
    by_cases hk : k = key
    · simp [get?, hk] at h
    · simp only [get?, hk, ↓reduceIte] at h
      rw [erase, if_neg hk, ih h]

/-- A removal leaves the entries of the other keys, the last one possibly in another place. -/
theorem erase_perm (h : entries.keys.Nodup) :
    List.Perm (entries.erase key) (entries.filter fun entry => entry.1 ≠ key) := by
  induction entries with
  | nil => exact .nil
  | cons first rest ih =>
    obtain ⟨k, v⟩ := first
    obtain ⟨hk, hr⟩ := List.nodup_cons.mp h
    by_cases he : k = key
    · subst he
      have hrest : rest.filter (fun entry => entry.1 ≠ k) = rest :=
        List.filter_eq_self.mpr fun entry hm =>
          decide_eq_true fun hkey => hk (hkey ▸ mem_keys_of_mem hm)
      rw [List.filter_cons_of_neg (by simp), hrest]
      simp only [erase, ↓reduceIte]
      split
      · rename_i hl
        rw [List.getLast?_eq_none_iff.mp hl]
      · rename_i last hl
        have hsplit := List.dropLast_append_getLast? last hl
        exact (List.perm_append_singleton last rest.dropLast).symm.trans (.of_eq hsplit)
    · rw [List.filter_cons_of_pos (by simpa using he)]
      simpa [erase, he] using ih hr

theorem nodup_erase (h : entries.keys.Nodup) : (entries.erase key).keys.Nodup :=
  ((erase_perm h).map Prod.fst).nodup_iff.mpr (h.sublist (List.filter_sublist.map Prod.fst))

theorem get?_erase (h : entries.keys.Nodup) :
    (entries.erase key).get? other = if key = other then none else entries.get? other := by
  refine Option.ext fun value => ?_
  rw [get?_eq_some_iff (nodup_erase h), (erase_perm h).mem_iff, List.mem_filter]
  by_cases he : key = other
  · simp [he]
  · simp [he, Ne.symm he, get?_eq_some_iff h]

end Distinct

section Insertions

variable {pairs : List (String × α)} {entry : String × α}

/-- Inserts the pairs one by one. -/
def insertAll (done : Entries α) (pairs : List (String × α)) : Entries α :=
  pairs.foldl (fun entries (key, value) => entries.insert key value) done

/-- Pairs with new keys go behind the entries in their order. -/
theorem insertAll_of_nodup {done : Entries α} (h : (keys (done ++ pairs)).Nodup) :
    insertAll done pairs = done ++ pairs := by
  induction pairs generalizing done with
  | nil => exact (List.append_nil done).symm
  | cons pair rest ih =>
    obtain ⟨key, value⟩ := pair
    have hsplit : done ++ (key, value) :: rest = done.insert key value ++ rest := by
      rw [insert_of_not_mem (not_mem_of_nodup_append h), List.append_assoc, List.singleton_append]
    rw [hsplit] at h ⊢
    exact ih h

theorem ofList_of_nodup (h : (keys pairs).Nodup) : ofList pairs = pairs :=
  insertAll_of_nodup h

/-- A key stands once, however often it is inserted, and has one of its values. -/
theorem nodup_insertAll {done : Entries α} (h : done.keys.Nodup) (pairs : List (String × α)) :
    (insertAll done pairs).keys.Nodup ∧
      ∀ entry ∈ insertAll done pairs, entry ∈ done ∨ entry ∈ pairs := by
  induction pairs generalizing done with
  | nil => exact ⟨h, fun _ hm => Or.inl hm⟩
  | cons pair rest ih =>
    obtain ⟨key, value⟩ := pair
    have hinsert : (done.insert key value).keys.Nodup := nodup_insert h
    obtain ⟨hkeys, hentries⟩ := ih hinsert
    refine ⟨hkeys, fun entry hm => ?_⟩
    rcases hentries entry hm with hold | hrest
    · rcases mem_insert hold with rfl | hdone
      · exact Or.inr List.mem_cons_self
      · exact Or.inl hdone
    · exact Or.inr (List.mem_cons_of_mem _ hrest)

theorem nodup_ofList (pairs : List (String × α)) : (ofList pairs).keys.Nodup := by
  have hempty : (keys ([] : Entries α)).Nodup := List.nodup_nil
  exact (nodup_insertAll hempty pairs).1

theorem mem_of_mem_ofList (h : entry ∈ ofList pairs) : entry ∈ pairs := by
  have hempty : (keys ([] : Entries α)).Nodup := List.nodup_nil
  exact ((nodup_insertAll hempty pairs).2 entry h).resolve_left List.not_mem_nil

/-- Insertions under keys that are left out do not show, the others go in as before. -/
theorem filter_insert (keep : String → Bool) (key : String) (value : α) (entries : Entries α) :
    (entries.insert key value).filter (fun entry => keep entry.1) =
      if keep key then Entries.insert key value (entries.filter fun entry => keep entry.1)
      else entries.filter fun entry => keep entry.1 := by
  induction entries with
  | nil => cases hk : keep key <;> simp [insert, hk]
  | cons first rest ih =>
    obtain ⟨k, v⟩ := first
    by_cases he : k = key
    · subst he
      cases hk : keep k <;> simp [insert, hk]
    · rw [insert, if_neg he]
      cases hf : keep k <;> cases hk : keep key <;> simp_all [insert]

end Insertions

/-- New keys follow the known ones in the order in which they are first seen. -/
def withNew (known new : List String) : List String :=
  known ++ (new.filter fun key => key ∉ known).eraseDups

theorem withNew_of_subset {known new : List String} (h : ∀ key ∈ new, key ∈ known) :
    withNew known new = known := by
  have hnone : (new.filter fun key => key ∉ known) = [] := by
    simpa [List.filter_eq_nil_iff] using h
  rw [withNew, hnone, List.eraseDups_nil, List.append_nil]

theorem withNew_singleton {known : List String} {key : String} (h : key ∉ known) :
    withNew known [key] = known ++ [key] := by
  simp [withNew, h, List.eraseDups_cons]

theorem keys_insert_eq_withNew (key : String) (value : α) (entries : Entries α) :
    (entries.insert key value).keys = withNew entries.keys [key] := by
  rw [keys_insert]
  split
  · rename_i hk
    exact (withNew_of_subset (by simpa using hk)).symm
  · rename_i hk
    exact (withNew_singleton hk).symm

end Entries

end RouteDoc
