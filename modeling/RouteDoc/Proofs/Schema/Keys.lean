import RouteDoc.Proofs.Check.Walk
import RouteDoc.Proofs.Schema.Folding
import RouteDoc.Proofs.Schema.Lowering

namespace RouteDoc.Schema

open Check (mentions mentionsInMembers mentionsInItems)
open Downgrade

/-- No key of the members, nor one within their values, is this one. -/
def Lacks (key : String) (members : Entries Json) : Prop :=
  ∀ entry ∈ members, entry.1 ≠ key ∧ mentions key entry.2 = false

section Lacking

variable {key name : String} {value : Json} {members : Entries Json}

theorem lacks_iff : Lacks key members ↔ mentions key (.object members) = false := by
  rw [mentions]
  induction members with
  | nil => simp [Lacks, mentionsInMembers]
  | cons entry rest ih =>
    obtain ⟨k, v⟩ := entry
    rw [Lacks, List.forall_mem_cons, mentionsInMembers, Bool.or_eq_false_iff]
    exact and_congr (by simp) ih

theorem mentions_array {items : List Json} :
    mentions key (.array items) = false ↔ ∀ item ∈ items, mentions key item = false := by
  rw [mentions]
  induction items with
  | nil => simp [mentionsInItems]
  | cons item rest ih => simp [mentionsInItems, ih]

theorem Lacks.get? (h : Lacks key members) (hg : members.get? name = some value) :
    mentions key value = false := (h _ (Entries.mem_of_get? hg)).2

theorem Lacks.erase (h : Lacks key members) : Lacks key (members.erase name) :=
  fun entry hm => h entry (Entries.mem_of_mem_erase hm)

theorem Lacks.insert (h : Lacks key members) (hk : name ≠ key)
    (hv : mentions key value = false) : Lacks key (members.insert name value) := by
  intro entry hm
  rcases Entries.mem_insert hm with rfl | hm
  · exact ⟨hk, hv⟩
  · exact h entry hm

end Lacking

section Folding

variable {key : String} {value : Json}

/-- Folding brings no keys but those that it writes. -/
theorem mentions_foldPatterns (ha : additionalKey ≠ key) (hn : patternNote ≠ key)
    (h : mentions key value = false) : mentions key (foldPatterns value) = false := by
  induction value using nesting_induction with
  | step value ih =>
    cases value with
    | object members =>
      have hlacks := lacks_iff.mpr h
      refine lacks_iff.mp (foldMembers_induction (fun _ hm => nomatch hm) fun hw hl => ?_)
      cases hw with
      | @kept name value hm _ =>
        obtain ⟨hname, hvalue⟩ := hlacks _ hm
        exact hl.insert hname (ih value (nesting_lt_members hm) hvalue)
      | @schema pattern schema others hm =>
        have hpatterns := lacks_iff.mpr (hlacks _ hm).2
        have hless : nesting schema < nesting (.object ((pattern, schema) :: others)) :=
          nesting_lt_members List.mem_cons_self
        have hinner := ih schema (Nat.lt_trans hless (nesting_lt_members hm))
          (hpatterns _ List.mem_cons_self).2
        exact hl.insert ha hinner
      | note _ => exact hl.insert hn rfl
    | array items =>
      rw [foldPatterns, foldItems_eq, mentions_array]
      intro item hm
      obtain ⟨before, hb, rfl⟩ := List.mem_map.mp hm
      exact ih before (nesting_lt_items hb) (mentions_array.mp h before hb)
    | _ => exact h

end Folding

section Lowering

/-- The keys that lowering writes. -/
def writtenKeys : List String :=
  ["enum", "type", "anyOf", "nullable", "minimum", "exclusiveMinimum", "maximum",
    "exclusiveMaximum", "example"]

variable {key : String} {value : Json} {members : Entries Json}

theorem ne_of_written {name : String} (hk : key ∉ writtenKeys) (hn : name ∈ writtenKeys) :
    name ≠ key :=
  fun he => hk (he ▸ hn)

theorem lacks_nullableIf {nullable : Bool} (hk : key ∉ writtenKeys) (h : Lacks key members) :
    Lacks key (nullableIf nullable members) := by
  cases nullable
  · exact h
  · exact h.insert (ne_of_written hk (by decide)) rfl

theorem lacks_single {name : String} (hk : name ≠ key) (h : mentions key value = false) :
    Lacks key [(name, value)] := by
  intro entry hm
  rw [List.mem_singleton.mp hm]
  exact ⟨hk, h⟩

theorem mentions_typeBranch (hk : key ∉ writtenKeys) (h : mentions key value = false) :
    mentions key (typeBranch value) = false := by
  have htype := ne_of_written hk (show "type" ∈ writtenKeys by decide)
  induction value using nesting_induction with
  | step value ih =>
    cases value with
    | array types =>
      have hitems := mentions_array.mp h
      refine lacks_iff.mp (lacks_nullableIf hk ?_)
      split
      · exact fun _ hm => nomatch hm
      · rename_i single hc
        have hm : single ∈ types := (List.mem_filter.mp (hc ▸ List.mem_singleton_self single)).1
        exact lacks_single htype (hitems single hm)
      · refine lacks_single (ne_of_written hk (by decide)) ?_
        rw [typeBranches_eq, mentions_array]
        intro branch hm
        obtain ⟨type, ht, rfl⟩ := List.mem_map.mp hm
        have hmem : type ∈ types := (List.mem_filter.mp ht).1
        exact ih type (nesting_lt_items hmem) (hitems type hmem)
    | _ => exact lacks_iff.mp (lacks_single htype h)

theorem lacks_splitTypes (hk : key ∉ writtenKeys) (h : Lacks key members) :
    Lacks key (splitTypes members) := by
  by_cases hl : ∃ types, members.get? "type" = some (.array types)
  · obtain ⟨types, ht⟩ := hl
    have htypes := mentions_array.mp (h.get? ht)
    rw [splitTypes_of_list ht]
    refine lacks_nullableIf hk ?_
    unfold divided
    split
    · exact h.erase
    · rename_i single hc
      have hm : single ∈ types := (List.mem_filter.mp (hc ▸ List.mem_singleton_self single)).1
      exact h.insert (ne_of_written hk (by decide)) (htypes single hm)
    · split
      · exact h.erase
      · refine h.erase.insert (ne_of_written hk (by decide)) ?_
        rw [typeBranches_eq, mentions_array]
        intro branch hm
        obtain ⟨type, ht, rfl⟩ := List.mem_map.mp hm
        exact mentions_typeBranch hk (htypes type (List.mem_filter.mp ht).1)
  · rw [splitTypes_of_not_list (not_exists.mp hl)]
    exact h

theorem lacks_dropIdentity (h : Lacks key members) : Lacks key (dropIdentity members) := by
  unfold dropIdentity
  dsimp only
  split
  · exact h.erase.erase.erase.erase
  · exact h.erase.erase.erase

theorem lacks_constToEnum (hk : key ∉ writtenKeys) (h : Lacks key members) :
    Lacks key (constToEnum members) := by
  unfold constToEnum
  split
  · exact h
  · rename_i constant hc
    dsimp only
    split
    · exact h.erase
    · refine h.erase.insert (ne_of_written hk (by decide)) (mentions_array.mpr fun item hm => ?_)
      rw [List.mem_singleton.mp hm]
      exact h.get? hc

theorem lacks_flagBound {flag bound : String} (hk : key ∉ writtenKeys)
    (hf : flag ∈ writtenKeys) (hb : bound ∈ writtenKeys) (h : Lacks key members) :
    Lacks key (flagBound flag bound members) := by
  unfold flagBound
  split
  · exact (h.insert (ne_of_written hk hb) rfl).insert (ne_of_written hk hf) rfl
  · exact h

theorem lacks_firstExample (hk : key ∉ writtenKeys) (h : Lacks key members) :
    Lacks key (firstExample members) := by
  unfold firstExample
  split
  · exact h
  · rename_i examples he
    dsimp only
    split
    · split
      · exact h.erase
      · refine h.erase.insert (ne_of_written hk (by decide)) ?_
        exact mentions_array.mp (h.get? he) _ List.mem_cons_self
    · exact h.erase

theorem lacks_downgradeNode (hk : key ∉ writtenKeys) (h : Lacks key members) :
    Lacks key (downgradeNode members) := by
  have htypes := lacks_splitTypes hk (lacks_constToEnum hk (lacks_dropIdentity h))
  have hmin : Lacks key (flagBound "exclusiveMinimum" "minimum" _) :=
    lacks_flagBound hk (by decide) (by decide) htypes
  have hmax : Lacks key (flagBound "exclusiveMaximum" "maximum" _) :=
    lacks_flagBound hk (by decide) (by decide) hmin
  exact lacks_firstExample hk hmax

theorem mentions_lowerChild {name : String} (ih : ∀ inner, nesting inner ≤ nesting value →
      mentions key inner = false → mentions key (downgrade inner) = false)
    (h : mentions key value = false) : mentions key (lowerChild name value) = false := by
  unfold lowerChild
  split
  · cases value with
    | object schemas =>
      rw [downgradeNamed, downgradeEach_eq]
      refine lacks_iff.mp fun entry hm => ?_
      obtain ⟨⟨name, schema⟩, hs, rfl⟩ := List.mem_map.mp hm
      obtain ⟨hname, hschema⟩ := lacks_iff.mpr h _ hs
      exact ⟨hname, ih schema (Nat.le_of_lt (nesting_lt_members hs)) hschema⟩
    | _ => exact h
  · split
    · exact ih value (Nat.le_refl _) h
    · exact h

/-- Lowering brings no keys but those that it writes. -/
theorem mentions_downgrade (hk : key ∉ writtenKeys) (h : mentions key value = false) :
    mentions key (downgrade value) = false := by
  induction value using nesting_induction with
  | step value ih =>
    cases value with
    | object members =>
      refine lacks_iff.mp (lacks_downgradeNode hk ?_)
      rw [downgradeChildren_eq]
      intro entry hm
      obtain ⟨⟨name, child⟩, hc, rfl⟩ := List.mem_map.mp hm
      obtain ⟨hname, hchild⟩ := lacks_iff.mpr h _ hc
      refine ⟨hname, mentions_lowerChild (fun inner hle => ?_) hchild⟩
      exact ih inner (Nat.lt_of_le_of_lt hle (nesting_lt_members hc))
    | array items =>
      rw [downgrade, downgradeItems_eq, mentions_array]
      intro item hm
      obtain ⟨before, hb, rfl⟩ := List.mem_map.mp hm
      exact ih before (nesting_lt_items hb) (mentions_array.mp h before hb)
    | _ => exact h

end Lowering

end RouteDoc.Schema
