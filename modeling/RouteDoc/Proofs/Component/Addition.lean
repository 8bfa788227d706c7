import RouteDoc.Proofs.Component.Spot
import RouteDoc.Proofs.Entries

namespace RouteDoc

/-- A failed step ends the computation in the state it left. -/
theorem run_bind {ε σ α β : Type} (action : ExceptT ε (StateM σ) α)
    (next : α → ExceptT ε (StateM σ) β) (state : σ) :
    (action >>= next).run.run state = match action.run.run state with
      | (.ok value, after) => (next value).run.run after
      | (.error cause, after) => (.error cause, after) := by
  rw [ExceptT.run_bind, StateT.run_bind]
  rcases action.run.run state with ⟨result, after⟩
  cases result <;> rfl

namespace Component

namespace Registry

variable {registry next after : Registry} {place : Section} {name : String} {value : Json}
  {list : List Registration}

@[simp] theorem get?_put (registry : Registry) (place other : Section) (name wanted : String)
    (value : Json) : (registry.put place name value).get? other wanted =
      if place = other ∧ name = wanted then some value else registry.get? other wanted := by
  cases place <;> cases other <;> simp [put, get?, entries, Entries.get?_insert]

@[simp] theorem policy_put (registry : Registry) (place : Section) (name : String) (value : Json) :
    (registry.put place name value).policy = registry.policy := by
  cases place <;> rfl

@[simp] theorem extra_put (registry : Registry) (place : Section) (name : String) (value : Json) :
    (registry.put place name value).extra = registry.extra := by
  cases place <;> rfl

theorem mem_entries_put {other : Section} {entry : String × Json}
    (h : entry ∈ (registry.put place name value).entries other) :
    place = other ∧ entry = (name, value) ∨ entry ∈ registry.entries other := by
  cases place <;> cases other
  case schemas.schemas => exact (Entries.mem_insert h).imp_left (fun he => ⟨rfl, he⟩)
  case responses.responses => exact (Entries.mem_insert h).imp_left (fun he => ⟨rfl, he⟩)
  all_goals exact Or.inr h

theorem entries_noted (noted : List (Section × String)) (place : Section) :
    entries { registry with overwritten := noted } place = registry.entries place := by
  cases place <;> rfl

/-- A successful addition puts the entry and otherwise only takes note. -/
theorem add_ok (h : registry.add place name value = .ok next) :
    (registry.policy = .fail → registry.get? place name = none) ∧
      ∃ noted, next = { registry.put place name value with overwritten := noted } := by
  unfold add at h
  split at h
  · rename_i hg
    cases h
    exact ⟨fun _ => hg, (registry.put place name value).overwritten, rfl⟩
  · contradiction
  · rename_i hp
    cases h
    exact ⟨fun hf => by rw [hp] at hf; contradiction, _, rfl⟩

/-- Known names are refused under the failing policy; nothing else ever is. -/
theorem add_error {duplicate : Duplicate} (h : registry.add place name value = .error duplicate) :
    registry.policy = .fail ∧ (registry.get? place name).isSome ∧ duplicate = ⟨place, name⟩ := by
  unfold add at h
  split at h
  · contradiction
  · rename_i hg hp
    cases h
    exact ⟨hp, by simp [hg], rfl⟩
  · contradiction

theorem get?_add (h : registry.add place name value = .ok next) (other : Section)
    (wanted : String) : next.get? other wanted =
      if place = other ∧ name = wanted then some value else registry.get? other wanted := by
  obtain ⟨_, noted, rfl⟩ := add_ok h
  exact get?_put registry place other name wanted value

theorem policy_add (h : registry.add place name value = .ok next) :
    next.policy = registry.policy := by
  obtain ⟨_, noted, rfl⟩ := add_ok h
  exact policy_put registry place name value

/-- Adds the entries in order and stops at the first that is refused. -/
def addAll : List Registration → Registry → Except Duplicate Unit × Registry
  | [], registry => (.ok (), registry)
  | entry :: rest, registry =>
    match registry.add entry.place entry.name entry.value with
    | .ok next => addAll rest next
    | .error duplicate => (.error duplicate, registry)

/-- The list was added as a whole. -/
theorem addAll_cons_ok {entry : Registration} {rest : List Registration}
    (h : addAll (entry :: rest) registry = (.ok (), after)) :
    ∃ next, registry.add entry.place entry.name entry.value = .ok next ∧
      addAll rest next = (.ok (), after) := by
  rw [addAll] at h
  split at h
  · rename_i next hn
    exact ⟨next, hn, h⟩
  · cases h

end Registry

/-- The value that the last entry of this name brings. -/
def latest (place : Section) (name : String) : List Registration → Option Json
  | [] => none
  | entry :: rest =>
    (latest place name rest).or
      (if entry.place = place ∧ entry.name = name then some entry.value else none)

/-- What tells one entry of a registry from another. -/
def Registration.key (entry : Registration) : Section × String := (entry.place, entry.name)

theorem latest_eq_none {place : Section} {name : String} {list : List Registration}
    (h : (place, name) ∉ list.map Registration.key) : latest place name list = none := by
  induction list with
  | nil => rfl
  | cons entry rest ih =>
    simp only [List.map_cons, List.mem_cons, not_or, Registration.key, Prod.mk.injEq] at h
    have hne : ¬(entry.place = place ∧ entry.name = name) := fun he => h.1 ⟨he.1.symm, he.2.symm⟩
    simp [latest, ih h.2, hne]

theorem latest_isSome {place : Section} {name : String} {list : List Registration}
    (h : (place, name) ∈ list.map Registration.key) : (latest place name list).isSome := by
  induction list with
  | nil => cases h
  | cons entry rest ih =>
    rw [latest, Option.isSome_or, Bool.or_eq_true]
    rcases List.mem_cons.mp h with he | hm
    · right
      obtain ⟨rfl, rfl⟩ := Prod.mk.inj he
      simp
    · exact Or.inl (ih hm)

/-- An entry that no later one of its name follows is the latest. -/
theorem latest_append_cons {entry : Registration} {before rest : List Registration}
    (h : entry.key ∉ rest.map Registration.key) :
    latest entry.place entry.name (before ++ entry :: rest) = some entry.value := by
  induction before with
  | nil => simp [latest, latest_eq_none h]
  | cons first before ih => simp [latest, ih]

theorem latest_of_mem {entry : Registration} {list : List Registration}
    (hd : (list.map Registration.key).Nodup) (hm : entry ∈ list) :
    latest entry.place entry.name list = some entry.value := by
  obtain ⟨before, rest, rfl⟩ := List.append_of_mem hm
  simp only [List.map_append, List.map_cons] at hd
  exact latest_append_cons (List.nodup_cons.mp (List.nodup_append.mp hd).2.1).1

namespace Registry

variable {registry after : Registry} {list : List Registration}

/-- The last entry of a name counts, and an older one only if the list has none. -/
theorem get?_addAll (h : addAll list registry = (.ok (), after)) (place : Section)
    (name : String) : after.get? place name =
      (latest place name list).or (registry.get? place name) := by
  induction list generalizing registry with
  | nil => cases h; rfl
  | cons entry rest ih =>
    obtain ⟨next, hn, hr⟩ := addAll_cons_ok h
    rw [ih hr, get?_add hn, latest, Option.or_assoc]
    congr 1
    split <;> rfl

/-- Each entry was there before or comes from the list. -/
theorem mem_entries_addAll (h : addAll list registry = (.ok (), after)) {place : Section}
    {entry : String × Json} (hm : entry ∈ after.entries place) :
    entry ∈ registry.entries place ∨ ⟨place, entry.1, entry.2⟩ ∈ list := by
  induction list generalizing registry with
  | nil => cases h; exact .inl hm
  | cons first rest ih =>
    obtain ⟨next, hn, hr⟩ := addAll_cons_ok h
    obtain ⟨_, noted, rfl⟩ := add_ok hn
    rcases ih hr with hbefore | hrest
    · rw [entries_noted] at hbefore
      rcases mem_entries_put hbefore with ⟨hplace, rfl⟩ | hbefore
      · subst hplace
        exact .inr List.mem_cons_self
      · exact .inl hbefore
    · exact .inr (List.mem_cons_of_mem _ hrest)

/-- Under the failing policy a list is added only if its names are distinct and new. -/
theorem nodup_of_addAll (hp : registry.policy = .fail)
    (h : addAll list registry = (.ok (), after)) :
    (list.map Registration.key).Nodup ∧
      ∀ entry ∈ list, registry.get? entry.place entry.name = none := by
  induction list generalizing registry with
  | nil => simp
  | cons entry rest ih =>
    obtain ⟨next, hn, hr⟩ := addAll_cons_ok h
    obtain ⟨hd, hnew⟩ := ih ((policy_add hn).trans hp) hr
    have hfree := (add_ok hn).1 hp
    have hapart : ∀ other ∈ rest, entry.key ≠ other.key ∧
        registry.get? other.place other.name = none := by
      intro other ho
      have hget := hnew other ho
      rw [get?_add hn] at hget
      split at hget
      · contradiction
      · rename_i hne
        refine ⟨fun he => hne ?_, hget⟩
        exact ⟨congrArg Prod.fst he, congrArg Prod.snd he⟩
    refine ⟨List.nodup_cons.mpr ⟨?_, hd⟩, List.forall_mem_cons.mpr ⟨hfree, ?_⟩⟩
    · intro hm
      obtain ⟨other, ho, he⟩ := List.mem_map.mp hm
      exact (hapart other ho).1 he.symm
    · exact fun other ho => (hapart other ho).2

/-- Nothing is refused under the overwriting policy. -/
theorem addAll_overwrite (hp : registry.policy = .overwrite) :
    ∃ after, addAll list registry = (.ok (), after) := by
  induction list generalizing registry with
  | nil => exact ⟨registry, rfl⟩
  | cons entry rest ih =>
    cases hn : registry.add entry.place entry.name entry.value with
    | ok next =>
      obtain ⟨after, ha⟩ := ih ((policy_add hn).trans hp)
      exact ⟨after, by rw [addAll, hn]; exact ha⟩
    | error duplicate =>
      rw [(add_error hn).1] at hp
      contradiction

/-- Either all entries are added, or those before one whose name is taken. -/
theorem addAll_cases (list : List Registration) (registry : Registry) :
    (∃ after, addAll list registry = (.ok (), after)) ∨
    ∃ before entry rest middle, list = before ++ entry :: rest ∧
      addAll before registry = (.ok (), middle) ∧
      middle.add entry.place entry.name entry.value = .error ⟨entry.place, entry.name⟩ ∧
      addAll list registry = (.error ⟨entry.place, entry.name⟩, middle) := by
  induction list generalizing registry with
  | nil => exact Or.inl ⟨registry, rfl⟩
  | cons entry rest ih =>
    cases hn : registry.add entry.place entry.name entry.value with
    | error duplicate =>
      obtain ⟨_, _, rfl⟩ := add_error hn
      exact Or.inr ⟨[], entry, rest, registry, rfl, rfl, hn, by simp [addAll, hn]⟩
    | ok next =>
      rcases ih next with ⟨after, ha⟩ | ⟨before, other, others, middle, hl, hb, he, ha⟩
      · left
        exact ⟨after, by simp [addAll, hn, ha]⟩
      · right
        subst hl
        exact ⟨entry :: before, other, others, middle, rfl, by simp [addAll, hn, hb], he,
          by simp [addAll, hn, ha]⟩

/-- A list changes nothing under names that it does not have, whether all of it is added or not. -/
theorem get?_addAll_of_not_mem {place : Section} {name : String} {list : List Registration}
    (h : (place, name) ∉ list.map Registration.key) (registry : Registry) :
    (addAll list registry).2.get? place name = registry.get? place name := by
  rcases addAll_cases list registry with ⟨after, ha⟩ | ⟨before, _, _, middle, hl, hb, _, ha⟩
  · rw [ha, get?_addAll ha, latest_eq_none h]
    rfl
  · have hbefore : (place, name) ∉ before.map Registration.key := by
      intro hm
      apply h
      rw [hl, List.map_append]
      exact List.mem_append_left _ hm
    rw [ha, get?_addAll hb, latest_eq_none hbefore]
    rfl

end Registry

open Registry

theorem run_register (place : Section) (name : String) (value : Json) (registry : Registry) :
    (register place name value).run.run registry = match registry.add place name value with
      | .ok next => (.ok (reference place name), next)
      | .error duplicate => (.error duplicate, registry) := by
  have hget : (get : Registering Registry).run.run registry = (.ok registry, registry) := rfl
  rw [register, run_bind, hget]
  dsimp only
  cases registry.add place name value <;> rfl

theorem run_registerAll (list : List Registration) (registry : Registry) :
    (registerAll list).run.run registry = addAll list registry := by
  induction list generalizing registry with
  | nil => rfl
  | cons entry rest ih =>
    rw [registerAll, run_bind, run_register, addAll]
    cases registry.add entry.place entry.name entry.value with
    | ok next => exact ih next
    | error duplicate => rfl

theorem run_decompose (schema : Json) (home label : String) (registry : Registry) :
    (decompose schema home label).run.run registry =
      match addAll (cut schema home label) registry with
      | (.ok (), after) => (.ok (schemaReference home label), after)
      | (.error duplicate, after) => (.error duplicate, after) := by
  rw [decompose_eq, run_bind, run_registerAll]
  rcases addAll (cut schema home label) registry with ⟨result, after⟩
  cases result <;> rfl

/-- A decomposition that succeeds has added the components of the schema. -/
theorem decompose_ok {schema : Json} {home label target : String} {registry after : Registry}
    (h : (decompose schema home label).run.run registry = (.ok target, after)) :
    target = schemaReference home label ∧
      addAll (cut schema home label) registry = (.ok (), after) := by
  rw [run_decompose] at h
  split at h
  · rename_i ha
    cases h
    exact ⟨rfl, ha⟩
  · cases h

end Component
end RouteDoc
