import Mathlib.Data.List.Forall2
import RouteDoc.Operation.Written
import RouteDoc.Proofs.Entries

namespace RouteDoc

section Lists

variable {α : Type} {R : α → α → Prop} {xs ys zs : List α}

theorem forall₂_head? (h : List.Forall₂ R xs ys) {value : α} (hv : R value value) :
    R (xs.head?.getD value) (ys.head?.getD value) := by
  cases h with
  | nil => exact hv
  | cons hr _ => exact hr

theorem forall₂_tail (h : List.Forall₂ R xs ys) : List.Forall₂ R xs.tail ys.tail := by
  cases h with
  | nil => exact .nil
  | cons _ hrest => exact hrest

theorem forall₂_trans (ht : ∀ {a b c}, R a b → R b c → R a c) (hf : List.Forall₂ R xs ys)
    (hs : List.Forall₂ R ys zs) : List.Forall₂ R xs zs := by
  induction hf generalizing zs with
  | nil => exact hs
  | cons h _ ih =>
    cases hs with
    | cons h' hrest => exact .cons (ht h h') (ih hrest)

theorem forall₂_map_of_mem {β : Type} {S : β → β → Prop} {f g : α → β} (h : List.Forall₂ R xs ys)
    (hs : ∀ x ∈ xs, ∀ y ∈ ys, R x y → S (f x) (g y)) : List.Forall₂ S (xs.map f) (ys.map g) := by
  induction h with
  | nil => exact .nil
  | @cons x y xs ys hr _ ih =>
    refine .cons (hs x List.mem_cons_self y List.mem_cons_self hr) (ih fun x hx y hy => ?_)
    exact hs x (List.mem_cons_of_mem _ hx) y (List.mem_cons_of_mem _ hy)

end Lists

section Options

variable {α β : Type} {R : α → α → Prop} {S : β → β → Prop} {a b c d : Option α}

theorem rel_refl (hr : ∀ value, R value value) (a : Option α) : Option.Rel R a a := by
  cases a with
  | none => exact .none
  | some value => exact .some (hr value)

theorem rel_or (h : Option.Rel R a b) (ho : Option.Rel R c d) : Option.Rel R (a.or c) (b.or d) := by
  cases h with
  | none => exact ho
  | some h => exact .some h

theorem rel_map {f g : α → β} (h : Option.Rel R a b)
    (hs : ∀ x ∈ a, ∀ y ∈ b, R x y → S (f x) (g y)) : Option.Rel S (a.map f) (b.map g) := by
  cases h with
  | none => exact .none
  | some h => exact .some (hs _ rfl _ rfl h)

theorem rel_bind {f g : α → Option β} (h : Option.Rel R a b)
    (hs : ∀ x ∈ a, ∀ y ∈ b, R x y → Option.Rel S (f x) (g y)) :
    Option.Rel S (a.bind f) (b.bind g) := by
  cases h with
  | none => exact .none
  | some h => exact hs _ rfl _ rfl h

theorem rel_filter {p : α → Bool} (h : Option.Rel R a b) (hp : ∀ x y, R x y → p x = p y) :
    Option.Rel R (a.filter p) (b.filter p) := by
  cases h with
  | none => exact .none
  | @some x y h =>
    rw [Option.filter_some, Option.filter_some, hp x y h]
    split
    · exact .some h
    · exact .none

theorem any_eq_of_rel {p : α → Bool} (h : Option.Rel R a b) (hp : ∀ x y, R x y → p x = p y) :
    a.any p = b.any p := by
  cases h with
  | none => rfl
  | some h => exact hp _ _ h

theorem forall₂_toList_iff : List.Forall₂ R a.toList b.toList ↔ Option.Rel R a b := by
  constructor
  · intro h
    cases a <;> cases b
    · exact .none
    · cases h
    · cases h
    · exact .some (List.forall₂_cons.mp h).1
  · intro h
    cases h with
    | none => exact .nil
    | some h => exact .cons h .nil

end Options

namespace Entries

variable {α : Type} {R : α → α → Prop} {first second third : Entries α}

/-- The values under a key in their order: at most one where no key stands twice. -/
def valuesAt (key : String) : Entries α → List α
  | [] => []
  | (k, v) :: rest => if k = key then v :: valuesAt key rest else valuesAt key rest

theorem head?_valuesAt (key : String) (entries : Entries α) :
    (valuesAt key entries).head? = entries.get? key := by
  induction entries with
  | nil => rfl
  | cons entry rest ih =>
    obtain ⟨k, v⟩ := entry
    by_cases h : k = key <;> simp [valuesAt, get?, h, ih]

theorem valuesAt_insert (key other : String) (value : α) (entries : Entries α) :
    valuesAt other (entries.insert key value) =
      if key = other then value :: (valuesAt other entries).tail else valuesAt other entries := by
  induction entries with
  | nil => by_cases h : key = other <;> simp [insert, valuesAt, h]
  | cons entry rest ih =>
    obtain ⟨k, v⟩ := entry
    by_cases hk : k = key
    · subst hk
      by_cases ho : k = other <;> simp [insert, valuesAt, ho]
    · by_cases ho : k = other
      · subst ho
        simp [insert, valuesAt, hk, Ne.symm hk, ih]
      · simp [insert, valuesAt, ho, hk, ih]

theorem valuesAt_map {β : Type} (write : α → β) (key : String) (entries : Entries α) :
    valuesAt key (entries.map fun (k, v) => (k, write v)) = (valuesAt key entries).map write := by
  induction entries with
  | nil => rfl
  | cons entry rest ih =>
    obtain ⟨k, v⟩ := entry
    by_cases h : k = key <;> simp [valuesAt, h, ih]

/-- Where no key stands twice, the values under a key are the one that is found. -/
theorem valuesAt_of_nodup {entries : Entries α} (h : entries.keys.Nodup) (key : String) :
    valuesAt key entries = (entries.get? key).toList := by
  induction entries with
  | nil => rfl
  | cons entry rest ih =>
    obtain ⟨k, v⟩ := entry
    obtain ⟨hk, hrest⟩ := List.nodup_cons.mp h
    rw [valuesAt, get?]
    split
    · rename_i he
      subst he
      rw [ih hrest, get?_eq_none_iff.mpr hk]
      rfl
    · exact ih hrest

/-- A second insertion under a key replaces the first. -/
theorem insert_insert_self (key : String) (old value : α) (entries : Entries α) :
    (entries.insert key old).insert key value = entries.insert key value := by
  induction entries with
  | nil => simp [insert]
  | cons entry rest ih =>
    obtain ⟨k, v⟩ := entry
    by_cases h : k = key <;> simp [insert, h, ih]

/-- Related values stand under each key. -/
def AlikeBy (R : α → α → Prop) (first second : Entries α) : Prop :=
  ∀ key, List.Forall₂ R (first.valuesAt key) (second.valuesAt key)

theorem AlikeBy.refl (hr : ∀ value, R value value) (entries : Entries α) :
    AlikeBy R entries entries :=
  fun _ => List.forall₂_same.mpr fun value _ => hr value

theorem AlikeBy.symm (hs : ∀ {a b}, R a b → R b a) (h : AlikeBy R first second) :
    AlikeBy R second first :=
  fun key => ((h key).imp fun _ _ hr => hs hr).flip

theorem AlikeBy.trans (ht : ∀ {a b c}, R a b → R b c → R a c) (hf : AlikeBy R first second)
    (hs : AlikeBy R second third) : AlikeBy R first third :=
  fun key => forall₂_trans ht (hf key) (hs key)

theorem AlikeBy.getD (h : AlikeBy R first second) (key : String) {value : α}
    (hv : R value value) : R ((first.get? key).getD value) ((second.get? key).getD value) := by
  rw [← head?_valuesAt, ← head?_valuesAt]
  exact forall₂_head? (h key) hv

theorem AlikeBy.get? (h : AlikeBy Eq first second) (key : String) :
    first.get? key = second.get? key := by
  have hvalues : first.valuesAt key = second.valuesAt key := by
    simpa only [List.forall₂_eq_eq_eq] using h key
  rw [← head?_valuesAt, hvalues, head?_valuesAt]

theorem AlikeBy.insert (h : AlikeBy R first second) (key : String) {value other : α}
    (hv : R value other) : AlikeBy R (first.insert key value) (second.insert key other) := by
  intro k
  rw [valuesAt_insert, valuesAt_insert]
  split
  · exact .cons hv (forall₂_tail (h k))
  · exact h k

/-- Insertions under different keys may change places. -/
theorem AlikeBy.insert_comm (hr : ∀ value, R value value) {key other : String}
    (hne : key ≠ other) (value new : α) (entries : Entries α) :
    AlikeBy R ((entries.insert key value).insert other new)
      ((entries.insert other new).insert key value) := by
  intro k
  have hvalues : valuesAt k ((entries.insert key value).insert other new) =
      valuesAt k ((entries.insert other new).insert key value) := by
    simp only [valuesAt_insert]
    split
    · rename_i ho
      subst ho
      simp [hne]
    · rfl
  rw [hvalues]
  exact List.forall₂_same.mpr fun value _ => hr value

end Entries

namespace Json

/-- The same value when the order of object keys is ignored at every depth. -/
inductive Alike : Json → Json → Prop
  | refl (value : Json) : Alike value value
  | array {items others : List Json} : List.Forall₂ Alike items others →
      Alike (.array items) (.array others)
  | object {members others : Entries Json} :
      (∀ key, List.Forall₂ Alike (members.valuesAt key) (others.valuesAt key)) →
      Alike (.object members) (.object others)

theorem Alike.items {items others : List Json} (h : Alike (.array items) (.array others)) :
    List.Forall₂ Alike items others := by
  cases h with
  | refl => exact List.forall₂_same.mpr fun value _ => .refl value
  | array h => exact h

section Lookup

variable {members others : Entries Json} (hm : members.keys.Nodup) (ho : others.keys.Nodup)
include hm ho

theorem Alike.get? (h : Alike (.object members) (.object others)) (key : String) :
    Option.Rel Alike (members.get? key) (others.get? key) := by
  have hvalues : List.Forall₂ Alike (members.valuesAt key) (others.valuesAt key) := by
    cases h with
    | refl => exact List.forall₂_same.mpr fun value _ => .refl value
    | object h => exact h key
  rw [Entries.valuesAt_of_nodup hm, Entries.valuesAt_of_nodup ho] at hvalues
  exact forall₂_toList_iff.mp hvalues

/-- Objects are alike if they hold alike values under each key. -/
theorem Alike.of_get? (h : ∀ key, Option.Rel Alike (members.get? key) (others.get? key)) :
    Alike (.object members) (.object others) := by
  refine .object fun key => ?_
  rw [Entries.valuesAt_of_nodup hm, Entries.valuesAt_of_nodup ho]
  exact forall₂_toList_iff.mpr (h key)

end Lookup

/-- Members in another order make an alike object. -/
theorem Alike.of_perm {members others : Entries Json} (h : members.keys.Nodup)
    (hp : members.Perm others) : Alike (.object members) (.object others) := by
  refine .of_get? h ((hp.map Prod.fst).nodup_iff.mp h) fun key => ?_
  rw [Entries.get?_of_perm h hp]
  exact rel_refl .refl _

/-- Members that stand in the same order need only be alike one by one. -/
theorem Alike.members {members others : Entries Json}
    (h : List.Forall₂ (fun a b => a.1 = b.1 ∧ Alike a.2 b.2) members others) :
    Alike (.object members) (.object others) := by
  refine .object fun key => ?_
  induction h with
  | nil => exact .nil
  | @cons a b as bs h _ ih =>
    obtain ⟨k, v⟩ := a
    obtain ⟨l, w⟩ := b
    obtain ⟨rfl, hv⟩ := h
    by_cases hk : k = key
    · simpa [Entries.valuesAt, hk] using And.intro hv ih
    · simpa [Entries.valuesAt, hk] using ih

/-- Maps with related values are written alike. -/
theorem Alike.ofEntries {α : Type} {R : α → α → Prop} {write : α → Json}
    {first second : Entries α} (h : Entries.AlikeBy R first second)
    (hw : ∀ a b, R a b → Alike (write a) (write b)) :
    Alike (Json.ofEntries write first) (Json.ofEntries write second) := by
  refine .object fun key => ?_
  rw [Entries.valuesAt_map, Entries.valuesAt_map, List.forall₂_map_left_iff,
    List.forall₂_map_right_iff]
  exact (h key).imp hw

end Json

end RouteDoc
