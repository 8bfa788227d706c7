import RouteDoc.Check.Reference
import RouteDoc.Component.Decomposition
import RouteDoc.Proofs.Component.Target
import RouteDoc.Proofs.Schema.Flat

namespace RouteDoc.Check

open Json.Pointer (child)

theorem referencesInMembers_eq (location : String) (members : Entries Json) :
    referencesInMembers location members = members.flatMap fun (key, value) =>
      if key = "$ref" then
        match value with
        | .string target => [(child location key, target)]
        | _ => []
      else referencesAt (child location key) value := by
  induction members with
  | nil => rfl
  | cons member rest ih =>
    obtain ⟨key, value⟩ := member
    rw [List.flatMap_cons, ← ih]
    cases value <;> rfl

theorem referencesInItems_eq (location : String) (index : Nat) (items : List Json) :
    referencesInItems location index items = (items.zipIdx index).flatMap fun (item, i) =>
      referencesAt (location ++ "/" ++ toString i) item := by
  induction items generalizing index with
  | nil => rfl
  | cons item rest ih => rw [referencesInItems, ih, List.zipIdx_cons, List.flatMap_cons]

/-- Every reference met in the value is one of these. -/
def RefersOnly (P : String → Prop) (value : Json) : Prop :=
  ∀ location, ∀ found ∈ referencesAt location value, P found.2

/-- The members of an object meet only these references, and none of them is one itself. -/
def MembersReferOnly (P : String → Prop) (members : Entries Json) : Prop :=
  ∀ entry ∈ members, RefersOnly P entry.2 ∧ (entry.1 = "$ref" → entry.2.isString = false)

namespace RefersOnly

variable {P : String → Prop} {members : Entries Json} {items : List Json}

theorem mono {Q : String → Prop} {value : Json} (h : RefersOnly P value)
    (hs : ∀ target, P target → Q target) : RefersOnly Q value :=
  fun location found hm => hs found.2 (h location found hm)

theorem string (text : String) : RefersOnly P (.string text) := fun _ _ hm => nomatch hm

theorem bool (b : Bool) : RefersOnly P (.bool b) := fun _ _ hm => nomatch hm

theorem isString {value : Json} (h : value.isString) : RefersOnly P value := by
  cases value with
  | string text => exact string text
  | _ => cases h

theorem object (h : MembersReferOnly P members) : RefersOnly P (.object members) := by
  intro location found hm
  rw [referencesAt, referencesInMembers_eq] at hm
  obtain ⟨⟨key, value⟩, he, hm⟩ := List.mem_flatMap.mp hm
  obtain ⟨hvalue, hstring⟩ := h (key, value) he
  dsimp only at hm
  split at hm
  · rename_i hkey
    have hnone := hstring hkey
    cases value with
    | string text => cases hnone
    | _ => cases hm
  · exact hvalue _ found hm

theorem reference {target : String} (h : P target) :
    RefersOnly P (Component.referenceTo target) := by
  intro location found hm
  rw [List.mem_singleton.mp hm]
  exact h

theorem array (h : ∀ item ∈ items, RefersOnly P item) : RefersOnly P (.array items) := by
  intro location found hm
  rw [referencesAt, referencesInItems_eq] at hm
  obtain ⟨⟨item, index⟩, hi, hm⟩ := List.mem_flatMap.mp hm
  exact h item (List.fst_mem_of_mem_zipIdx hi) _ found hm

end RefersOnly

namespace MembersReferOnly

variable {P : String → Prop} {first second members : Entries Json} {key : String}

theorem nil : MembersReferOnly P [] := fun _ hm => nomatch hm

theorem append (hf : MembersReferOnly P first) (hs : MembersReferOnly P second) :
    MembersReferOnly P (first ++ second) :=
  fun entry hm => (List.mem_append.mp hm).elim (hf entry) (hs entry)

theorem single {value : Json} (hk : key ≠ "$ref") (h : RefersOnly P value) :
    MembersReferOnly P [(key, value)] := by
  intro entry hm
  rw [List.mem_singleton.mp hm]
  exact ⟨h, fun he => absurd he hk⟩

theorem optional {value : Option Json} (hk : key ≠ "$ref") (h : ∀ v ∈ value, RefersOnly P v) :
    MembersReferOnly P (Json.optional key value) := by
  cases value with
  | none => exact nil
  | some v => exact single hk (h v rfl)

theorem optionalString {value : Option String} (hk : key ≠ "$ref") :
    MembersReferOnly P (Json.optionalString key value) := by
  refine optional hk fun v hv => ?_
  obtain ⟨text, _, rfl⟩ := Option.map_eq_some_iff.mp hv
  exact .string text

/-- Members of which none is a text may have any key. -/
theorem of_not_isString (h : ∀ entry ∈ members, RefersOnly P entry.2 ∧ entry.2.isString = false) :
    MembersReferOnly P members :=
  fun entry hm => ⟨(h entry hm).1, fun _ => (h entry hm).2⟩

end MembersReferOnly

mutual

/-- An object in the value has this key. -/
def mentions (key : String) : Json → Bool
  | .object members => mentionsInMembers key members
  | .array items => mentionsInItems key items
  | _ => false
termination_by structural value => value

def mentionsInMembers (key : String) : List (String × Json) → Bool
  | [] => false
  | (name, value) :: rest => name = key || mentions key value || mentionsInMembers key rest

def mentionsInItems (key : String) : List Json → Bool
  | [] => false
  | item :: rest => mentions key item || mentionsInItems key rest

end

mutual

/-- A value without the key of references has no references. -/
theorem referencesAt_of_not_mentions : (value : Json) → (location : String) →
    mentions "$ref" value = false → referencesAt location value = []
  | .object members, location, h => referencesInMembers_of_not_mentions members location h
  | .array items, location, h => referencesInItems_of_not_mentions items location 0 h
  | .null, _, _ | .bool _, _, _ | .number _, _, _ | .string _, _, _ => rfl
termination_by structural value => value

theorem referencesInMembers_of_not_mentions : (members : List (String × Json)) →
    (location : String) → mentionsInMembers "$ref" members = false →
      referencesInMembers location members = []
  | [], _, _ => rfl
  | (name, value) :: rest, location, h => by
    simp only [mentionsInMembers, Bool.or_eq_false_iff, decide_eq_false_iff_not] at h
    have hvalue := referencesAt_of_not_mentions value (child location name) h.1.2
    have hrest := referencesInMembers_of_not_mentions rest location h.2
    cases value <;> simp_all [referencesInMembers]

theorem referencesInItems_of_not_mentions : (items : List Json) → (location : String) →
    (index : Nat) → mentionsInItems "$ref" items = false →
      referencesInItems location index items = []
  | [], _, _, _ => rfl
  | item :: rest, location, index, h => by
    simp only [mentionsInItems, Bool.or_eq_false_iff] at h
    rw [referencesInItems, referencesAt_of_not_mentions item _ h.1,
      referencesInItems_of_not_mentions rest location (index + 1) h.2]
    rfl

end

theorem refersOnly_of_not_mentions {P : String → Prop} {value : Json}
    (h : mentions "$ref" value = false) : RefersOnly P value := by
  intro location found hm
  rw [referencesAt_of_not_mentions value location h] at hm
  cases hm

section Flat

open Component (memberTargets componentTargets referenceTo arrayOf leaf objectOf)
open Schema.SchemaObject (Flat)

theorem leaf_eq (type : Option String) (name : String) (title : Option Json) :
    leaf type name title = .object (Json.optionalString "type" type ++
      [("title", .string name)] ++ Json.optional "description" title) := by
  cases type <;> rfl

theorem isString_of_flat {value : Json} (h : Flat value) : value.isString = false := by
  cases h <;> rfl

/-- What stands for a schema has its references where decomposition places them. -/
theorem refersOnly_flat {value : Json} (h : Flat value) :
    RefersOnly (· ∈ memberTargets value) value := by
  induction h with
  | reference target => exact .reference (by simp)
  | empty => exact .object .nil
  | @array items _ ih =>
    rw [Component.memberTargets_arrayOf]
    have htype : RefersOnly (· ∈ memberTargets items) (.string "array") := .string _
    exact .object (.append (.single (by simp) htype) (.single (by simp) ih))
  | @oneOf alternatives _ ih =>
    rw [Component.memberTargets_oneOf]
    refine .object (.single (by simp) (.array fun alternative hm => ?_))
    exact (ih alternative hm).mono fun target ht => List.mem_flatMap.mpr ⟨alternative, hm, ht⟩
  | @leaf type name title _ hs =>
    rw [Component.memberTargets_leaf, leaf_eq]
    refine .object (.append (.append (.optionalString (by simp)) ?_) (.optional (by simp) ?_))
    · exact .single (by simp) (.string _)
    · exact fun text hx => .isString (hs text hx)

/-- The same holds of a component with flat members. -/
theorem refersOnly_objectOf {names : List String} {properties : Entries Json}
    (hp : ∀ entry ∈ properties, Flat entry.2) :
    RefersOnly (· ∈ componentTargets (objectOf (names.map .string) properties))
      (objectOf (names.map .string) properties) := by
  rw [Component.componentTargets_objectOf]
  have hproperties : RefersOnly
      (· ∈ properties.flatMap fun (_, member) => memberTargets member) (.object properties) := by
    refine .object (.of_not_isString fun entry hm => ⟨?_, isString_of_flat (hp entry hm)⟩)
    exact (refersOnly_flat (hp entry hm)).mono fun target ht => List.mem_flatMap.mpr ⟨entry, hm, ht⟩
  have hrequired : MembersReferOnly
      (· ∈ properties.flatMap fun (_, member) => memberTargets member)
      (if names.map Json.string = [] then [] else [("required", .array (names.map .string))]) := by
    split
    · exact .nil
    · refine .single (by simp) (.array fun item hm => ?_)
      obtain ⟨name, _, rfl⟩ := List.mem_map.mp hm
      exact .string name
  exact .object (.append (.append (.single (by simp) (.string _)) hrequired)
    (.single (by simp) hproperties))

end Flat

end RouteDoc.Check
