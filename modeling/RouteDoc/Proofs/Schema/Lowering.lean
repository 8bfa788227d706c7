import RouteDoc.Proofs.Entries
import RouteDoc.Schema.Downgrade

namespace RouteDoc.Schema

namespace Downgrade

/-- The types of a list other than null. -/
def concrete (types : List Json) : List Json := types.filter fun type => !isNullType type

/-- The type that takes the place of a type list, if there is exactly one. -/
def soleType : Json → Option Json
  | .array types =>
    match concrete types with
    | [single] => some single
    | _ => none
  | type => some type

/-- The alternatives that take the place of a list of several types. -/
def alternatives : Json → Option Json
  | .array types =>
    match concrete types with
    | [] | [_] => none
    | _ => some (.array (typeBranches types))
  | _ => none

theorem eq_of_isNullType {type : Json} (h : isNullType type = true) : type = .string "null" := by
  unfold isNullType at h
  split at h
  · rfl
  · cases h

def listsNull : Json → Bool
  | .array types => types.any isNullType
  | _ => false

/-- A numeric bound becomes a flag. -/
def flagged : Json → Json
  | .number _ => .bool true
  | value => value

def firstOf : Json → Option Json
  | .array (first :: _) => some first
  | _ => none

/-- The plain bound after its exclusive sibling has taken its place. -/
def boundAfter (members : Entries Json) (flag bound : String) : Option Json :=
  ((members.get? flag).filter Json.isNumber).or (members.get? bound)

/-- What stands under a key of a lowered schema object, its child schemas aside. -/
def lowered (members : Entries Json) : String → Option Json
  | "$schema" => none
  | "$id" => none
  | "$comment" => none
  | "const" => none
  | "examples" => none
  | "id" => (members.get? "id").filter fun id => !id.isString
  | "enum" => (members.get? "enum").or ((members.get? "const").map fun value => .array [value])
  | "type" => (members.get? "type").bind soleType
  | "anyOf" => (members.get? "anyOf").or ((members.get? "type").bind alternatives)
  | "nullable" =>
    if (members.get? "type").any listsNull then some (.bool true) else members.get? "nullable"
  | "minimum" => boundAfter members "exclusiveMinimum" "minimum"
  | "exclusiveMinimum" => (members.get? "exclusiveMinimum").map flagged
  | "maximum" => boundAfter members "exclusiveMaximum" "maximum"
  | "exclusiveMaximum" => (members.get? "exclusiveMaximum").map flagged
  | "example" => (members.get? "example").or ((members.get? "examples").bind firstOf)
  | key => members.get? key

section Steps

variable {members : Entries Json} {key : String}

/-- The members without those that `dropIdentity` drops whatever their value. -/
theorem get?_erased (h : members.keys.Nodup) :
    (((members.erase "$schema").erase "$id").erase "$comment").get? key =
      if key = "$schema" ∨ key = "$id" ∨ key = "$comment" then none else members.get? key := by
  rw [Entries.get?_erase (Entries.nodup_erase (Entries.nodup_erase h)),
    Entries.get?_erase (Entries.nodup_erase h), Entries.get?_erase h]
  grind

theorem nodup_erased (h : members.keys.Nodup) :
    (((members.erase "$schema").erase "$id").erase "$comment").keys.Nodup :=
  Entries.nodup_erase (Entries.nodup_erase (Entries.nodup_erase h))

theorem nodup_dropIdentity (h : members.keys.Nodup) : (dropIdentity members).keys.Nodup := by
  unfold dropIdentity
  dsimp only
  split
  · exact Entries.nodup_erase (nodup_erased h)
  · exact nodup_erased h

theorem get?_dropIdentity (h : members.keys.Nodup) : (dropIdentity members).get? key =
    if key = "$schema" ∨ key = "$id" ∨ key = "$comment" then none
    else if key = "id" then (members.get? "id").filter fun id => !id.isString
    else members.get? key := by
  have hid : (((members.erase "$schema").erase "$id").erase "$comment").get? "id" =
      members.get? "id" := by
    rw [get?_erased h, if_neg (by decide)]
  unfold dropIdentity
  dsimp only
  rw [hid]
  split
  · rename_i hs
    rw [Entries.get?_erase (nodup_erased h), get?_erased h]
    cases hm : members.get? "id" with
    | none => simp [hm] at hs
    | some id => grind
  · rename_i hs
    rw [get?_erased h]
    cases hm : members.get? "id" with
    | none => grind
    | some id => grind

theorem nodup_constToEnum (h : members.keys.Nodup) : (constToEnum members).keys.Nodup := by
  unfold constToEnum
  split
  · exact h
  · dsimp only
    split
    · exact Entries.nodup_erase h
    · exact Entries.nodup_insert (Entries.nodup_erase h)

theorem get?_constToEnum (h : members.keys.Nodup) : (constToEnum members).get? key =
    if key = "const" then none
    else if key = "enum" then
      (members.get? "enum").or ((members.get? "const").map fun value => .array [value])
    else members.get? key := by
  unfold constToEnum
  split
  · rename_i hc
    by_cases hk : key = "const"
    · simp [hk, hc]
    · by_cases he : key = "enum" <;> simp [hk, he, hc]
  · rename_i value hc
    have hhas : Entries.has "enum" (members.erase "const") = (members.get? "enum").isSome := by
      rw [Entries.has, Entries.get?_erase h, if_neg (by decide)]
    dsimp only
    rw [hhas, hc]
    cases he : members.get? "enum" with
    | none =>
      simp only [Option.isSome_none, Bool.false_eq_true, ↓reduceIte]
      rw [Entries.get?_insert, Entries.get?_erase h]
      grind
    | some enum =>
      simp only [Option.isSome_some, ↓reduceIte]
      rw [Entries.get?_erase h]
      grind

theorem nodup_nullableIf {nullable : Bool} (h : members.keys.Nodup) :
    (nullableIf nullable members).keys.Nodup := by
  cases nullable
  · exact h
  · exact Entries.nodup_insert h

theorem get?_nullableIf (nullable : Bool) : (nullableIf nullable members).get? key =
    if nullable = true ∧ key = "nullable" then some (.bool true) else members.get? key := by
  cases nullable
  · simp [nullableIf]
  · simp [nullableIf, Entries.get?_insert, eq_comm]

/-- The members with the types of a list in place of the list. -/
def divided (types : List Json) (members : Entries Json) : Entries Json :=
  match concrete types with
  | [] => members.erase "type"
  | [single] => members.insert "type" single
  | _ =>
    if (members.erase "type").has "anyOf" then members.erase "type"
    else (members.erase "type").insert "anyOf" (.array (typeBranches types))

theorem nodup_divided {types : List Json} (h : members.keys.Nodup) :
    (divided types members).keys.Nodup := by
  unfold divided
  split
  · exact Entries.nodup_erase h
  · exact Entries.nodup_insert h
  · split
    · exact Entries.nodup_erase h
    · exact Entries.nodup_insert (Entries.nodup_erase h)

theorem get?_divided {types : List Json} (h : members.keys.Nodup) :
    (divided types members).get? key =
      if key = "type" then soleType (.array types)
      else if key = "anyOf" then (members.get? "anyOf").or (alternatives (.array types))
      else members.get? key := by
  have hhas : Entries.has "anyOf" (members.erase "type") = (members.get? "anyOf").isSome := by
    rw [Entries.has, Entries.get?_erase h, if_neg (by decide)]
  rw [divided, soleType, alternatives, hhas]
  rcases concrete types with _ | ⟨first, _ | ⟨second, rest⟩⟩
  · dsimp only
    rw [Entries.get?_erase h]
    grind
  · dsimp only
    rw [Entries.get?_insert]
    grind
  · dsimp only
    cases ha : members.get? "anyOf" with
    | none =>
      simp only [Option.isSome_none, Bool.false_eq_true, ↓reduceIte]
      rw [Entries.get?_insert, Entries.get?_erase h]
      grind
    | some anyOf =>
      simp only [Option.isSome_some, ↓reduceIte]
      rw [Entries.get?_erase h]
      grind

theorem splitTypes_of_list {types : List Json} (h : members.get? "type" = some (.array types)) :
    splitTypes members = nullableIf (types.any isNullType) (divided types members) := by
  rw [splitTypes, h]
  rfl

theorem splitTypes_of_not_list (h : ∀ types, members.get? "type" ≠ some (.array types)) :
    splitTypes members = members := by
  unfold splitTypes
  split
  · rename_i types ht
    exact absurd ht (h types)
  · rfl

theorem nodup_splitTypes (h : members.keys.Nodup) : (splitTypes members).keys.Nodup := by
  by_cases hl : ∃ types, members.get? "type" = some (.array types)
  · obtain ⟨types, ht⟩ := hl
    rw [splitTypes_of_list ht]
    exact nodup_nullableIf (nodup_divided h)
  · rw [splitTypes_of_not_list (not_exists.mp hl)]
    exact h

theorem get?_splitTypes (h : members.keys.Nodup) : (splitTypes members).get? key =
    if key = "type" then (members.get? "type").bind soleType
    else if key = "anyOf" then
      (members.get? "anyOf").or ((members.get? "type").bind alternatives)
    else if key = "nullable" ∧ (members.get? "type").any listsNull then some (.bool true)
    else members.get? key := by
  by_cases hl : ∃ types, members.get? "type" = some (.array types)
  · obtain ⟨types, ht⟩ := hl
    rw [splitTypes_of_list ht, get?_nullableIf, get?_divided h, ht]
    simp only [Option.bind_some, Option.any_some, listsNull]
    grind
  · have hnot := not_exists.mp hl
    rw [splitTypes_of_not_list hnot]
    cases ht : members.get? "type" with
    | none => grind
    | some type =>
      cases type with
      | array types => exact absurd ht (hnot types)
      | _ =>
        simp only [Option.bind_some, soleType, alternatives, Option.any_some, listsNull]
        grind

theorem nodup_flagBound {flag bound : String} (h : members.keys.Nodup) :
    (flagBound flag bound members).keys.Nodup := by
  unfold flagBound
  split
  · exact Entries.nodup_insert (Entries.nodup_insert h)
  · exact h

theorem get?_flagBound {flag bound : String} :
    (flagBound flag bound members).get? key =
      if key = flag then (members.get? flag).map flagged
      else if key = bound then boundAfter members flag bound
      else members.get? key := by
  unfold flagBound boundAfter
  split
  · rename_i limit hf
    rw [Entries.get?_insert, Entries.get?_insert, hf]
    simp only [Option.map_some, flagged, Option.filter_some, Json.isNumber, ↓reduceIte,
      Option.some_or]
    grind
  · rename_i hnumber
    cases hf : members.get? flag with
    | none => grind
    | some value =>
      cases value with
      | number limit => exact absurd hf (hnumber limit)
      | _ =>
        simp only [Option.map_some, flagged, Option.filter_some, Json.isNumber,
          Bool.false_eq_true, ↓reduceIte, Option.none_or]
        grind

theorem nodup_firstExample (h : members.keys.Nodup) : (firstExample members).keys.Nodup := by
  unfold firstExample
  split
  · exact h
  · dsimp only
    split
    · split
      · exact Entries.nodup_erase h
      · exact Entries.nodup_insert (Entries.nodup_erase h)
    · exact Entries.nodup_erase h

theorem get?_firstExample (h : members.keys.Nodup) : (firstExample members).get? key =
    if key = "examples" then none
    else if key = "example" then
      (members.get? "example").or ((members.get? "examples").bind firstOf)
    else members.get? key := by
  have hhas : Entries.has "example" (members.erase "examples") =
      (members.get? "example").isSome := by
    rw [Entries.has, Entries.get?_erase h, if_neg (by decide)]
  unfold firstExample
  split
  · grind
  · rename_i examples he
    dsimp only
    rw [he, hhas]
    split
    · rename_i first rest
      cases hx : members.get? "example" with
      | none =>
        simp only [Option.isSome_none, Bool.false_eq_true, ↓reduceIte, firstOf, Option.bind_some]
        rw [Entries.get?_insert, Entries.get?_erase h]
        grind
      | some single =>
        simp only [Option.isSome_some, ↓reduceIte]
        rw [Entries.get?_erase h]
        grind
    · rename_i hfirst
      have hnone : firstOf examples = none := by
        unfold firstOf
        split
        · rename_i first rest
          exact absurd rfl (hfirst first rest)
        · rfl
      rw [Option.bind_some, hnone, Entries.get?_erase h]
      grind

theorem nodup_downgradeNode (h : members.keys.Nodup) : (downgradeNode members).keys.Nodup :=
  nodup_firstExample (nodup_flagBound (nodup_flagBound (nodup_splitTypes (nodup_constToEnum
    (nodup_dropIdentity h)))))

/-- The steps read and write so that each key of the outcome depends on the given members only. -/
theorem get?_downgradeNode (h : members.keys.Nodup) :
    (downgradeNode members).get? key = lowered members key := by
  have hidentity := nodup_dropIdentity h
  have hconst := nodup_constToEnum hidentity
  have htypes := nodup_splitTypes hconst
  have hflags : (flagBound "exclusiveMaximum" "maximum" (flagBound "exclusiveMinimum" "minimum"
      (splitTypes (constToEnum (dropIdentity members))))).keys.Nodup :=
    nodup_flagBound (nodup_flagBound htypes)
  unfold downgradeNode lowered
  split <;> simp_all [get?_firstExample hflags, get?_flagBound, boundAfter, get?_splitTypes hconst,
    get?_constToEnum hidentity, get?_dropIdentity h]

end Steps

/-- A member after its child schemas have been lowered. -/
def lowerChild (key : String) (value : Json) : Json :=
  if namedSlots.contains key then downgradeNamed value
  else if directSlots.contains key then downgrade value
  else value

theorem typeBranches_eq (types : List Json) :
    typeBranches types = (concrete types).map typeBranch := by
  induction types with
  | nil => rfl
  | cons type rest ih =>
    rw [typeBranches, ih]
    cases hn : isNullType type <;> simp [concrete, hn]

theorem concrete_of_soleType {types : List Json} {type : Json}
    (h : soleType (.array types) = some type) : concrete types = [type] := by
  unfold soleType at h
  dsimp only at h
  split at h
  · rename_i hc
    rw [hc, Option.some.inj h]
  · cases h

theorem mem_of_soleType {types : List Json} {type : Json}
    (h : soleType (.array types) = some type) : type ∈ types := by
  have hm : type ∈ concrete types := by
    rw [concrete_of_soleType h]
    exact List.mem_singleton_self type
  exact (List.mem_filter.mp hm).1

theorem eq_of_firstOf {examples first : Json} (h : firstOf examples = some first) :
    ∃ rest, examples = .array (first :: rest) := by
  unfold firstOf at h
  split at h
  · rename_i found rest
    exact ⟨rest, by rw [Option.some.inj h]⟩
  · cases h

theorem eq_of_alternatives {types : List Json} {branches : Json}
    (h : alternatives (.array types) = some branches) :
    branches = .array ((concrete types).map typeBranch) := by
  unfold alternatives at h
  dsimp only at h
  split at h
  · cases h
  · cases h
  · rw [← Option.some.inj h, typeBranches_eq]

/-- A branch is what lowering makes of an object that only declares its type. -/
theorem downgrade_typed (type : Json) : downgrade (.object [("type", type)]) = typeBranch type := by
  cases type with
  | array types =>
    change Json.object (downgradeNode [("type", .array types)]) = _
    have hkept : constToEnum (dropIdentity [("type", .array types)]) =
        [("type", .array types)] := rfl
    rw [downgradeNode, hkept, splitTypes_of_list rfl, divided, concrete, typeBranch]
    generalize types.any isNullType = nullable, types.filter (fun type => !isNullType type) = left
    rcases left with _ | ⟨first, _ | ⟨second, rest⟩⟩ <;> cases nullable <;> rfl
  | _ => rfl

section Children

variable {members : Entries Json} {key : String}

theorem downgradeChildren_eq (members : Entries Json) :
    downgradeChildren members = members.map fun (key, value) => (key, lowerChild key value) := by
  induction members with
  | nil => rfl
  | cons member rest ih =>
    obtain ⟨key, value⟩ := member
    have hmember : (if namedSlots.contains key then (key, downgradeNamed value)
        else if directSlots.contains key then (key, downgrade value)
        else (key, value)) = (key, lowerChild key value) := by
      unfold lowerChild
      grind
    rw [downgradeChildren, hmember, ih, List.map_cons]

theorem downgradeEach_eq (schemas : Entries Json) :
    downgradeEach schemas = schemas.map fun (name, schema) => (name, downgrade schema) := by
  induction schemas with
  | nil => rfl
  | cons schema rest ih => rw [downgradeEach, ih, List.map_cons]

theorem downgradeItems_eq (items : List Json) : downgradeItems items = items.map downgrade := by
  induction items with
  | nil => rfl
  | cons item rest ih => rw [downgradeItems, ih, List.map_cons]

theorem nodup_downgradeChildren (h : members.keys.Nodup) :
    (downgradeChildren members).keys.Nodup := by
  rw [downgradeChildren_eq, Entries.keys_map lowerChild]
  exact h

theorem get?_downgradeChildren : (downgradeChildren members).get? key =
    (members.get? key).map (lowerChild key) := by
  rw [downgradeChildren_eq]
  induction members with
  | nil => rfl
  | cons member rest ih =>
    obtain ⟨k, value⟩ := member
    by_cases hk : k = key <;> simp [Entries.get?, hk, ih]

/-- Only what stands in the slots of child schemas changes. -/
theorem get?_children_of_plain (hn : namedSlots.contains key = false)
    (hd : directSlots.contains key = false) :
    (downgradeChildren members).get? key = members.get? key := by
  have hid : lowerChild key = id := by
    funext value
    rw [lowerChild, hn, hd]
    rfl
  rw [get?_downgradeChildren, hid, Option.map_id_fun, id]

theorem get?_lowered (h : members.keys.Nodup) :
    (downgradeNode (downgradeChildren members)).get? key =
      lowered (downgradeChildren members) key :=
  get?_downgradeNode (nodup_downgradeChildren h)

theorem get?_type_lowered (h : members.keys.Nodup) :
    (downgradeNode (downgradeChildren members)).get? "type" =
      (members.get? "type").bind soleType :=
  (get?_lowered h).trans (congrArg (Option.bind · soleType) (get?_children_of_plain rfl rfl))

theorem get?_enum_lowered (h : members.keys.Nodup) :
    (downgradeNode (downgradeChildren members)).get? "enum" =
      (members.get? "enum").or ((members.get? "const").map fun value => .array [value]) := by
  rw [get?_lowered h]
  change ((downgradeChildren members).get? "enum").or _ = _
  rw [get?_children_of_plain rfl rfl, get?_children_of_plain rfl rfl]

theorem get?_nullable_lowered (h : members.keys.Nodup) :
    (downgradeNode (downgradeChildren members)).get? "nullable" =
      if (members.get? "type").any listsNull then some (.bool true)
      else members.get? "nullable" := by
  rw [get?_lowered h]
  change (if ((downgradeChildren members).get? "type").any listsNull then _
    else (downgradeChildren members).get? "nullable") = _
  rw [get?_children_of_plain rfl rfl, get?_children_of_plain rfl rfl]

theorem get?_anyOf_lowered (h : members.keys.Nodup) (ha : members.get? "anyOf" = none) :
    (downgradeNode (downgradeChildren members)).get? "anyOf" =
      (members.get? "type").bind alternatives := by
  rw [get?_lowered h]
  change ((downgradeChildren members).get? "anyOf").or
    (((downgradeChildren members).get? "type").bind alternatives) = _
  rw [get?_downgradeChildren, ha, get?_children_of_plain rfl rfl]
  rfl

end Children

/-- The keywords for exclusive bounds, each with the plain bound of its side. -/
def sides : List (String × String) :=
  [("exclusiveMinimum", "minimum"), ("exclusiveMaximum", "maximum")]

theorem get?_flag_lowered {members : Entries Json} {flag bound : String}
    (hn : members.keys.Nodup) (hs : (flag, bound) ∈ sides) :
    (downgradeNode (downgradeChildren members)).get? flag = (members.get? flag).map flagged := by
  simp only [sides, List.mem_cons, List.not_mem_nil, or_false, Prod.mk.injEq] at hs
  rw [get?_lowered hn]
  rcases hs with ⟨rfl, rfl⟩ | ⟨rfl, rfl⟩ <;>
    exact congrArg (Option.map flagged) (get?_children_of_plain rfl rfl)

theorem get?_bound_lowered {members : Entries Json} {flag bound : String}
    (hn : members.keys.Nodup) (hs : (flag, bound) ∈ sides) :
    (downgradeNode (downgradeChildren members)).get? bound = boundAfter members flag bound := by
  have hchildren : boundAfter (downgradeChildren members) flag bound =
      boundAfter members flag bound := by
    simp only [sides, List.mem_cons, List.not_mem_nil, or_false, Prod.mk.injEq] at hs
    rcases hs with ⟨rfl, rfl⟩ | ⟨rfl, rfl⟩ <;>
      rw [boundAfter, boundAfter, get?_children_of_plain rfl rfl, get?_children_of_plain rfl rfl]
  simp only [sides, List.mem_cons, List.not_mem_nil, or_false, Prod.mk.injEq] at hs
  rw [get?_lowered hn]
  rcases hs with ⟨rfl, rfl⟩ | ⟨rfl, rfl⟩ <;> exact hchildren

/-- Keys that lowering does not simply leave where they are. -/
def ruled : List String :=
  ["$schema", "$id", "$comment", "id", "const", "examples", "type", "minimum",
    "exclusiveMinimum", "maximum", "exclusiveMaximum"]

/-- Where a member of a lowered schema comes from. -/
inductive Origin (members : Entries Json) : String → Json → Prop
  | kept {key : String} {value : Json} : key ∉ ruled → members.get? key = some value →
      Origin members key (lowerChild key value)
  | otherId {id : Json} : members.get? "id" = some id → id.isString = false →
      Origin members "id" id
  | constant {value : Json} : members.get? "const" = some value →
      Origin members "enum" (.array [value])
  | soleType {type single : Json} : members.get? "type" = some type →
      soleType type = some single → Origin members "type" single
  | alternatives {type branches : Json} : members.get? "type" = some type →
      alternatives type = some branches → Origin members "anyOf" branches
  | nullable {type : Json} : members.get? "type" = some type → listsNull type = true →
      Origin members "nullable" (.bool true)
  /-- An exclusive bound that takes the place of the plain one. -/
  | limit {flag bound : String} {limit : Json} : (flag, bound) ∈ sides →
      members.get? flag = some limit → limit.isNumber = true → Origin members bound limit
  /-- A plain bound with no number beside it. -/
  | bound {flag bound : String} {limit : Json} : (flag, bound) ∈ sides →
      (members.get? flag).filter Json.isNumber = none → members.get? bound = some limit →
      Origin members bound limit
  | flag {flag bound : String} {limit : Json} : (flag, bound) ∈ sides →
      members.get? flag = some limit → Origin members flag (flagged limit)
  | firstExample {examples first : Json} : members.get? "examples" = some examples →
      firstOf examples = some first → Origin members "example" first

section Origins

variable {members : Entries Json} {key : String} {value : Json}

theorem Origin.of_get?_children (hk : key ∉ ruled)
    (h : (downgradeChildren members).get? key = some value) : Origin members key value := by
  rw [get?_downgradeChildren] at h
  obtain ⟨before, hb, rfl⟩ := Option.map_eq_some_iff.mp h
  exact .kept hk hb

theorem Origin.of_boundAfter {flag bound : String} (hs : (flag, bound) ∈ sides)
    (h : boundAfter members flag bound = some value) : Origin members bound value := by
  rcases Option.or_eq_some_iff.mp h with hf | ⟨hnone, hb⟩
  · obtain ⟨hg, hnumber⟩ := Option.filter_eq_some_iff.mp hf
    exact .limit hs hg hnumber
  · exact .bound hs hnone hb

/-- Whatever stands under a key of a lowered schema has one of these origins. -/
theorem Origin.of_lowered (h : lowered (downgradeChildren members) key = some value) :
    Origin members key value := by
  unfold lowered at h
  split at h
  case h_1 | h_2 | h_3 | h_4 | h_5 => cases h
  case h_6 =>
    rw [get?_children_of_plain rfl rfl] at h
    obtain ⟨hg, hs⟩ := Option.filter_eq_some_iff.mp h
    exact .otherId hg (by simpa using hs)
  case h_7 =>
    rcases Option.or_eq_some_iff.mp h with he | ⟨_, hc⟩
    · exact .of_get?_children (by decide) he
    · rw [get?_children_of_plain rfl rfl] at hc
      obtain ⟨constant, hg, rfl⟩ := Option.map_eq_some_iff.mp hc
      exact .constant hg
  case h_8 =>
    rw [get?_children_of_plain rfl rfl] at h
    obtain ⟨type, ht, hs⟩ := Option.bind_eq_some_iff.mp h
    exact .soleType ht hs
  case h_9 =>
    rcases Option.or_eq_some_iff.mp h with ha | ⟨_, ht⟩
    · exact .of_get?_children (by decide) ha
    · rw [get?_children_of_plain rfl rfl] at ht
      obtain ⟨type, ht, hs⟩ := Option.bind_eq_some_iff.mp ht
      exact .alternatives ht hs
  case h_10 =>
    split at h
    · rename_i hnull
      rw [get?_children_of_plain rfl rfl] at hnull
      cases ht : members.get? "type" with
      | none =>
        rw [ht] at hnull
        cases hnull
      | some type =>
        rw [ht] at hnull
        cases h
        exact .nullable ht hnull
    · exact .of_get?_children (by decide) h
  case h_11 | h_13 =>
    rw [boundAfter, get?_children_of_plain rfl rfl, get?_children_of_plain rfl rfl] at h
    exact .of_boundAfter (by decide) h
  case h_12 =>
    rw [get?_children_of_plain rfl rfl] at h
    obtain ⟨limit, hg, rfl⟩ := Option.map_eq_some_iff.mp h
    exact .flag (show ("exclusiveMinimum", "minimum") ∈ sides by decide) hg
  case h_14 =>
    rw [get?_children_of_plain rfl rfl] at h
    obtain ⟨limit, hg, rfl⟩ := Option.map_eq_some_iff.mp h
    exact .flag (show ("exclusiveMaximum", "maximum") ∈ sides by decide) hg
  case h_15 =>
    rcases Option.or_eq_some_iff.mp h with he | ⟨_, hx⟩
    · exact .of_get?_children (by decide) he
    · rw [get?_children_of_plain rfl rfl] at hx
      obtain ⟨examples, hg, hf⟩ := Option.bind_eq_some_iff.mp hx
      exact .firstExample hg hf
  case h_16 => exact .of_get?_children (by simp_all [ruled]) h

theorem Origin.of_mem (hn : members.keys.Nodup)
    (h : (key, value) ∈ downgradeNode (downgradeChildren members)) : Origin members key value := by
  have hnodup := nodup_downgradeNode (nodup_downgradeChildren hn)
  exact .of_lowered ((get?_lowered hn).symm.trans ((Entries.get?_eq_some_iff hnodup).mpr h))

end Origins

end Downgrade
end RouteDoc.Schema
