import RouteDoc.Proofs.Json.Alike
import RouteDoc.Proofs.Schema.Visit

namespace RouteDoc.Schema

open Downgrade
open Json (Alike)

section Values

variable {value other : Json} {types others : List Json}

theorem isNullType_alike (h : Alike value other) : isNullType value = isNullType other := by
  cases h <;> rfl

theorem isString_alike (h : Alike value other) : value.isString = other.isString := by
  cases h <;> rfl

theorem isNumber_alike (h : Alike value other) : value.isNumber = other.isNumber := by
  cases h <;> rfl

theorem flagged_alike (h : Alike value other) : Alike (flagged value) (flagged other) := by
  cases h with
  | refl => exact .refl _
  | array h => exact .array h
  | object h => exact .object h

theorem firstOf_alike (h : Alike value other) :
    Option.Rel Alike (firstOf value) (firstOf other) := by
  cases h with
  | refl => exact rel_refl .refl _
  | array h =>
    cases h with
    | nil => exact .none
    | cons h _ => exact .some h
  | object _ => exact .none

theorem any_null_alike (h : List.Forall₂ Alike types others) :
    types.any isNullType = others.any isNullType := by
  induction h with
  | nil => rfl
  | cons h _ ih => rw [List.any_cons, List.any_cons, isNullType_alike h, ih]

theorem listsNull_alike (h : Alike value other) : listsNull value = listsNull other := by
  cases h with
  | refl => rfl
  | array h => exact any_null_alike h
  | object _ => rfl

theorem concrete_alike (h : List.Forall₂ Alike types others) :
    List.Forall₂ Alike (concrete types) (concrete others) := by
  refine List.rel_filter (fun type other hr => ?_) h
  simp only [isNullType_alike hr]

theorem soleType_alike (h : Alike value other) :
    Option.Rel Alike (soleType value) (soleType other) := by
  cases h with
  | refl => exact rel_refl .refl _
  | @array types others h =>
    have hconcrete := concrete_alike h
    rw [soleType, soleType]
    generalize concrete types = left, concrete others = right at hconcrete
    cases hconcrete with
    | nil => exact .none
    | cons h hrest =>
      cases hrest with
      | nil => exact .some h
      | cons _ _ => exact .none
  | object h => exact .some (.object h)

end Values

section Node

variable {members others : Entries Json}

theorem boundAfter_alike (h : ∀ key, Option.Rel Alike (members.get? key) (others.get? key))
    (flag bound : String) :
    Option.Rel Alike (boundAfter members flag bound) (boundAfter others flag bound) :=
  rel_or (rel_filter (h flag) fun _ _ hr => isNumber_alike hr) (h bound)

/-- What stands under a key of a lowered object depends on what is found under the keys before. -/
theorem lowered_alike (h : ∀ key, Option.Rel Alike (members.get? key) (others.get? key))
    (ha : Option.Rel Alike ((members.get? "type").bind alternatives)
      ((others.get? "type").bind alternatives)) (key : String) :
    Option.Rel Alike (lowered members key) (lowered others key) := by
  unfold lowered
  split
  case h_1 | h_2 | h_3 | h_4 | h_5 => exact .none
  case h_6 =>
    refine rel_filter (h "id") fun id other hr => ?_
    rw [isString_alike hr]
  case h_7 =>
    refine rel_or (h "enum") (rel_map (h "const") fun _ _ _ _ hr => ?_)
    exact .array (.cons hr .nil)
  case h_8 => exact rel_bind (h "type") fun _ _ _ _ hr => soleType_alike hr
  case h_9 => exact rel_or (h "anyOf") ha
  case h_10 =>
    rw [any_eq_of_rel (h "type") fun _ _ hr => listsNull_alike hr]
    split
    · exact rel_refl .refl _
    · exact h "nullable"
  case h_11 | h_13 => exact boundAfter_alike h _ _
  case h_12 => exact rel_map (h "exclusiveMinimum") fun _ _ _ _ hr => flagged_alike hr
  case h_14 => exact rel_map (h "exclusiveMaximum") fun _ _ _ _ hr => flagged_alike hr
  case h_15 =>
    exact rel_or (h "example") (rel_bind (h "examples") fun _ _ _ _ hr => firstOf_alike hr)
  case h_16 => exact h _

end Node

/-- Lowering cannot tell the value from one that is alike. -/
def LowersAlike (value : Json) : Prop :=
  ∀ other : Json, value.distinct = true → other.distinct = true → Alike value other →
    Alike (downgrade value) (downgrade other)

section Trees

variable {key : String} {value other : Json}
  (ih : ∀ inner, nesting inner ≤ nesting value → LowersAlike inner)
  (hd : value.distinct = true) (ho : other.distinct = true) (h : Alike value other)
include ih hd ho h

/-- The branches for the types of a list are lowered from objects that nest no deeper than it. -/
theorem alternatives_alike : Option.Rel Alike (alternatives value) (alternatives other) := by
  cases h with
  | refl => exact rel_refl .refl _
  | @array types others h =>
    have hconcrete := concrete_alike h
    have hbranches : List.Forall₂ Alike (typeBranches types) (typeBranches others) := by
      rw [typeBranches_eq, typeBranches_eq]
      refine forall₂_map_of_mem hconcrete fun type ht later hl hr => ?_
      have htype : type ∈ types := (List.mem_filter.mp ht).1
      have hlater : later ∈ others := (List.mem_filter.mp hl).1
      rw [← downgrade_typed, ← downgrade_typed]
      exact ih _ (nesting_typed htype) _ (distinct_typed (Json.distinct_array.mp hd type htype))
        (distinct_typed (Json.distinct_array.mp ho later hlater))
        (.members (.cons ⟨rfl, hr⟩ .nil))
    rw [alternatives, alternatives]
    generalize concrete types = left, concrete others = right at hconcrete
    cases hconcrete with
    | nil => exact .none
    | cons _ hrest =>
      cases hrest with
      | nil => exact .none
      | cons _ _ => exact .some (.array hbranches)
  | object _ => exact .none

/-- Schemas by name are alike after lowering if each of them is. -/
theorem downgradeNamed_alike : Alike (downgradeNamed value) (downgradeNamed other) := by
  cases h with
  | refl => exact .refl _
  | array h => exact .array h
  | @object schemas others h =>
    have hs := (Json.distinct_object.mp hd).1
    have hos := (Json.distinct_object.mp ho).1
    have hkept (entries : Entries Json) := Entries.keys_map (fun _ => downgrade) entries
    rw [downgradeNamed, downgradeNamed, downgradeEach_eq, downgradeEach_eq]
    refine Alike.of_get? (by rwa [hkept]) (by rwa [hkept]) fun name => ?_
    rw [Entries.get?_map, Entries.get?_map]
    refine rel_map ((Alike.object h).get? hs hos name) fun schema hf later hg hr => ?_
    have hless := nesting_lt_members (Entries.mem_of_get? hf)
    exact ih schema (Nat.le_of_lt hless) later (Json.distinct_get? hd hf)
      (Json.distinct_get? ho hg) hr

theorem lowerChild_alike : Alike (lowerChild key value) (lowerChild key other) := by
  unfold lowerChild
  split
  · exact downgradeNamed_alike ih hd ho h
  · split
    · exact ih value (Nat.le_refl _) other hd ho h
    · exact h

end Trees

/-- Objects are lowered alike if the values nested in them are. -/
theorem downgrade_object_alike {members others : Entries Json}
    (ih : ∀ inner, nesting inner < nesting (.object members) → LowersAlike inner)
    (hd : (Json.object members).distinct = true) (ho : (Json.object others).distinct = true)
    (h : Alike (.object members) (.object others)) :
    Alike (downgrade (.object members)) (downgrade (.object others)) := by
  have hn := (Json.distinct_object.mp hd).1
  have hon := (Json.distinct_object.mp ho).1
  have hbelow {key : String} {value : Json} (hg : members.get? key = some value) :
      ∀ inner, nesting inner ≤ nesting value → LowersAlike inner := fun inner hle =>
    ih inner (Nat.lt_of_le_of_lt hle (nesting_lt_members (Entries.mem_of_get? hg)))
  have hchildren (key : String) : Option.Rel Alike ((downgradeChildren members).get? key)
      ((downgradeChildren others).get? key) := by
    rw [get?_downgradeChildren, get?_downgradeChildren]
    refine rel_map (h.get? hn hon key) fun child hf later hg hr => ?_
    exact lowerChild_alike (hbelow hf) (Json.distinct_get? hd hf) (Json.distinct_get? ho hg) hr
  have hplain (members : Entries Json) :
      (downgradeChildren members).get? "type" = members.get? "type" :=
    get?_children_of_plain rfl rfl
  have halternatives : Option.Rel Alike
      (((downgradeChildren members).get? "type").bind alternatives)
      (((downgradeChildren others).get? "type").bind alternatives) := by
    rw [hplain, hplain]
    refine rel_bind (h.get? hn hon "type") fun type hf later hg hr => ?_
    exact alternatives_alike (hbelow hf) (Json.distinct_get? hd hf) (Json.distinct_get? ho hg) hr
  rw [downgrade, downgrade]
  refine Alike.of_get? (nodup_downgradeNode (nodup_downgradeChildren hn))
    (nodup_downgradeNode (nodup_downgradeChildren hon)) fun key => ?_
  rw [get?_lowered hn, get?_lowered hon]
  exact lowered_alike hchildren halternatives key

/-- Lowering takes alike values to alike values. -/
theorem downgrade_alike {value other : Json} (hd : value.distinct = true)
    (ho : other.distinct = true) (h : Alike value other) :
    Alike (downgrade value) (downgrade other) := by
  induction value using nesting_induction generalizing other with
  | step value ih =>
    have hbelow : ∀ inner, nesting inner < nesting value → LowersAlike inner :=
      fun inner hless other hd ho h => ih inner hless hd ho h
    cases h with
    | refl => exact .refl _
    | @array items others h =>
      rw [downgrade, downgrade, downgradeItems_eq, downgradeItems_eq]
      refine .array (forall₂_map_of_mem h fun item hm later hl hr => ?_)
      exact hbelow item (nesting_lt_items hm) later (Json.distinct_array.mp hd item hm)
        (Json.distinct_array.mp ho later hl) hr
    | object h => exact downgrade_object_alike hbelow hd ho (.object h)

/-- The type stands before the bounds on one side and after them on the other. -/
def shareSchema : Json := .object [
  ("type", .array [.string "number", .string "string", .string "null"]),
  ("minimum", .ofNat 0),
  ("exclusiveMinimum", .ofNat 1)]

def shareReordered : Json := .object [
  ("minimum", .ofNat 0),
  ("exclusiveMinimum", .ofNat 1),
  ("type", .array [.string "number", .string "string", .string "null"])]

def splitSchema : Json := .object [("$id", .string "split"), ("items", shareSchema)]

def splitReordered : Json := .object [("items", shareReordered), ("$id", .string "split")]

theorem alike_shareReordered : Alike shareSchema shareReordered :=
  .of_perm (by decide) (List.perm_append_comm : ([_] ++ _).Perm (_ ++ [_]))

theorem alike_splitReordered : Alike splitSchema splitReordered := by
  refine Alike.of_get? (by decide) (by decide) fun key => ?_
  by_cases hk : key = "items"
  · subst hk
    exact .some alike_shareReordered
  · simp only [Entries.get?, if_neg (Ne.symm hk)]
    exact rel_refl .refl _

theorem downgrade_alike_split : splitSchema.distinct = true ∧ splitReordered.distinct = true ∧
    Alike splitSchema splitReordered ∧
    Alike (downgrade splitSchema) (downgrade splitReordered) := by
  have hd : splitSchema.distinct = true := by decide
  have ho : splitReordered.distinct = true := by decide
  exact ⟨hd, ho, alike_splitReordered, downgrade_alike hd ho alike_splitReordered⟩

end RouteDoc.Schema
