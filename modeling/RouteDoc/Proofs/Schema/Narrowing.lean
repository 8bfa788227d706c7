import RouteDoc.Proofs.Schema.Relaxation

namespace RouteDoc.Schema

open Downgrade

/-- The value satisfies what stands under the key, if anything does. -/
def meets (version : Version) (members : Entries Json) (key : String) (value : Json) : Bool :=
  (members.get? key).all fun keyword => holds version members key keyword value

/-- The value satisfies type, enumeration and alternatives after lowering. A nullable schema lets
null pass for the type, and alternatives that stood there before are read as they were. -/
def takes (members : Entries Json) (value : Json) : Bool :=
  let after := membersOf (downgrade (.object members))
  (Version.admitsNull .openApi30 after value || meets .openApi30 after "type" value) &&
    (meets .openApi30 after "enum" value &&
      if members.has "anyOf" then meets .draft7 members "anyOf" value
      else meets .openApi30 after "anyOf" value)

/-- The type is null or a list with null in it. -/
def namesNull (type : Json) : Bool := isNullType type || listsNull type

/-- No keyword of the lowered schema asks for the type. -/
inductive Untyped (members : Entries Json) (value : Json) : Json → Prop
  /-- The list has no type but null. -/
  | empty {types : List Json} : concrete types = [] → Untyped members value (.array types)
  /-- Alternatives stand where the types would be written. -/
  | several {types : List Json} : 1 < (concrete types).length → members.has "anyOf" = true →
      Untyped members value (.array types)
  /-- The schema said it was nullable, which asks nothing before lowering. -/
  | nullable {type : Json} : value.isNull = true → (members.get? "nullable").any isTrue = true →
      Untyped members value type

/-- Lowering gives up the keyword for this value. -/
inductive Dropped (members : Entries Json) (value : Json) : String → Prop
  /-- An enumeration stands where the constant would be written. -/
  | const : members.has "enum" = true → Dropped members value "const"
  | type {type : Json} : members.get? "type" = some type → Untyped members value type →
      ¬(value.isNull = true ∧ namesNull type = true) → Dropped members value "type"

/-- The keywords in question. -/
def choiceKeys : List String := ["type", "const", "enum", "anyOf"]

section Types

variable {members after : Entries Json} {types : List Json} {type value : Json} {name : String}

theorem meets_of_get? {version : Version} {key : String} {keyword : Json}
    (h : meets version members key value = true) (hg : members.get? key = some keyword) :
    holds version members key keyword value = true := by
  rwa [meets, hg] at h

theorem exists_name (hf : (Form.types typeNames).has (.array types) = true) (hm : type ∈ types) :
    ∃ name, type = .string name := by
  have hname := List.all_eq_true.mp hf type hm
  cases type with
  | string name => exact ⟨name, rfl⟩
  | _ => cases hname

theorem holds_type_of_mem {version : Version} (hm : .string name ∈ types)
    (h : isOfType value name = true) :
    holds version members "type" (.array types) value = true :=
  List.any_eq_true.mpr ⟨.string name, hm, h⟩

theorem holds_type_of_null (hv : value.isNull = true) (ht : namesNull type = true) :
    holds .draft7 members "type" type value = true := by
  have hnull : isOfType value "null" = true := by
    cases value with
    | null => rfl
    | _ => cases hv
  rw [namesNull, Bool.or_eq_true] at ht
  rcases ht with htype | hlists
  · rw [eq_of_isNullType htype]
    exact hnull
  · cases type with
    | array types =>
      obtain ⟨item, hm, hitem⟩ := List.any_eq_true.mp hlists
      exact holds_type_of_mem (eq_of_isNullType hitem ▸ hm) hnull
    | _ => cases hlists

/-- One of the branches that stand for the types has the value's type. -/
theorem exists_name_of_branches (hs : ∀ type ∈ types, ∃ name, type = .string name)
    (h : holds .openApi30 after "anyOf" (.array (types.map typeBranch)) value = true) :
    ∃ name, .string name ∈ types ∧ isOfType value name = true := by
  have hany : (verdicts .openApi30 (types.map typeBranch) value).any id = true := h
  simp only [verdicts_eq, List.any_map, List.any_eq_true, Function.comp_apply, id] at hany
  obtain ⟨type, hm, haccepts⟩ := hany
  obtain ⟨name, rfl⟩ := hs type hm
  have hnot : ¬Version.admitsNull .openApi30 [("type", .string name)] value = true := by
    simp [Version.admitsNull, Entries.get?]
  have hheld := (accepts_object.mp haccepts).resolve_left hnot
  exact ⟨name, hm, hheld ("type", .string name) List.mem_cons_self⟩

/-- Where the type is still asked for, null does not pass for a type that it has not. -/
theorem admitsNull_lowered_eq_false (hn : members.keys.Nodup) (ht : members.get? "type" = some type)
    (hu : ¬Untyped members value type) (hnull : ¬(value.isNull = true ∧ namesNull type = true)) :
    Version.admitsNull .openApi30 (downgradeNode (downgradeChildren members)) value = false := by
  refine eq_false_of_ne_true fun hadmits => ?_
  simp only [Version.admitsNull, decide_true, Bool.true_and, Bool.and_eq_true] at hadmits
  obtain ⟨hnullable, hv⟩ := hadmits
  have hlists : listsNull type = false :=
    eq_false_of_ne_true fun hl => hnull ⟨hv, by rw [namesNull, hl, Bool.or_true]⟩
  rw [get?_nullable_lowered hn, ht, Option.any_some, hlists] at hnullable
  exact hu (.nullable hv hnullable)

theorem type_of_takes (hn : members.keys.Nodup) (hf : (Form.types typeNames).has type = true)
    (ht : members.get? "type" = some type) (h : takes members value = true)
    (hd : ¬Dropped members value "type") : holds .draft7 members "type" type value = true := by
  by_cases hnull : value.isNull = true ∧ namesNull type = true
  · exact holds_type_of_null hnull.1 hnull.2
  have hu : ¬Untyped members value type := fun hu => hd (.type ht hu hnull)
  have hadmits := admitsNull_lowered_eq_false hn ht hu hnull
  simp only [takes, downgrade, membersOf, hadmits, Bool.false_or, Bool.and_eq_true] at h
  obtain ⟨htype, -, hanyOf⟩ := h
  have hafter := get?_type_lowered hn
  rw [ht, Option.bind_some] at hafter
  cases type with
  | string name =>
    have hheld := meets_of_get? htype hafter
    exact hheld
  | array types =>
    rcases hc : concrete types with _ | ⟨single, _ | ⟨second, rest⟩⟩
    · exact absurd (.empty hc) hu
    · have hsole : soleType (.array types) = some single := by rw [soleType, hc]
      have hm : single ∈ types := List.mem_of_mem_filter (hc ▸ List.mem_singleton_self single)
      obtain ⟨name, rfl⟩ := exists_name hf hm
      exact holds_type_of_mem hm (meets_of_get? htype (hafter.trans hsole))
    · have hown : members.has "anyOf" = false := eq_false_of_ne_true fun ha =>
        hu (.several (by simp [hc]) ha)
      have hnone : members.get? "anyOf" = none := by simpa [Entries.has] using hown
      have hbranches : alternatives (.array types) =
          some (.array ((concrete types).map typeBranch)) := by
        rw [alternatives, typeBranches_eq, hc]
      have hget := get?_anyOf_lowered hn hnone
      rw [ht, Option.bind_some, hbranches] at hget
      rw [hown, if_neg (by decide)] at hanyOf
      obtain ⟨name, hm, hname⟩ := exists_name_of_branches
        (fun type hm => exists_name hf (List.mem_of_mem_filter hm)) (meets_of_get? hanyOf hget)
      exact holds_type_of_mem (List.mem_of_mem_filter hm) hname
  | _ => cases hf

end Types

section Choices

variable {members : Entries Json} {keyword value : Json} {key : String}

theorem enum_of_takes (hn : members.keys.Nodup) (hg : members.get? "enum" = some keyword)
    (h : takes members value = true) : holds .draft7 members "enum" keyword value = true := by
  simp only [takes, downgrade, membersOf, Bool.and_eq_true] at h
  have hafter := get?_enum_lowered hn
  rw [hg, Option.some_or] at hafter
  have hheld := meets_of_get? h.2.1 hafter
  rw [holds_of_plain (by decide)] at hheld ⊢
  rwa [asserts_congr .draft7 (by decide) (by decide)] at hheld

theorem const_of_takes (hn : members.keys.Nodup) (hg : members.get? "const" = some keyword)
    (h : takes members value = true) (hd : ¬Dropped members value "const") :
    holds .draft7 members "const" keyword value = true := by
  have hnone : members.get? "enum" = none := by
    cases he : members.get? "enum" with
    | none => rfl
    | some choices => exact absurd (.const (by rw [Entries.has, he]; rfl)) hd
  simp only [takes, downgrade, membersOf, Bool.and_eq_true] at h
  have hafter := get?_enum_lowered hn
  rw [hnone, hg, Option.none_or, Option.map_some] at hafter
  have hany : [keyword].any (fun choice => Json.equal choice value) = true :=
    meets_of_get? h.2.1 hafter
  rwa [List.any_cons, List.any_nil, Bool.or_false] at hany

theorem anyOf_of_takes (hg : members.get? "anyOf" = some keyword)
    (h : takes members value = true) : holds .draft7 members "anyOf" keyword value = true := by
  have hown : members.has "anyOf" = true := by
    rw [Entries.has, hg]
    rfl
  simp only [takes, hown, ↓reduceIte, Bool.and_eq_true] at h
  exact meets_of_get? h.2.2 hg

/-- A value that the lowered schema takes satisfies each keyword that lowering does not give up for
it. -/
theorem meets_of_takes (hn : members.keys.Nodup)
    (hf : (members.get? "type").all (Form.types typeNames).has = true)
    (h : takes members value = true) (hk : key ∈ choiceKeys) (hd : ¬Dropped members value key) :
    meets .draft7 members key value = true := by
  unfold meets
  cases hg : members.get? key with
  | none => rfl
  | some keyword =>
    simp only [choiceKeys, List.mem_cons, List.not_mem_nil, or_false] at hk
    rcases hk with rfl | rfl | rfl | rfl
    · rw [hg] at hf
      exact type_of_takes hn hf hg h hd
    · exact const_of_takes hn hg h hd
    · exact enum_of_takes hn hg h
    · exact anyOf_of_takes hg h

end Choices

/-- A grade, or none. -/
def gradeMembers : Entries Json := [
  ("type", .array [.string "integer", .string "string", .string "null"]),
  ("const", .string "A")]

theorem meets_of_takes_grade : gradeMembers.keys.Nodup ∧
    (gradeMembers.get? "type").all (Form.types typeNames).has = true ∧
      takes gradeMembers (.string "A") = true ∧ "type" ∈ choiceKeys ∧
        ¬Dropped gradeMembers (.string "A") "type" ∧
          meets .draft7 gradeMembers "type" (.string "A") = true := by
  have hnot : ¬Dropped gradeMembers (.string "A") "type" := by
    intro h
    generalize hkey : "type" = key at h
    cases h with
    | const => exact absurd hkey (by decide)
    | type hg hu _ =>
      cases hg
      cases hu with
      | empty hc => simp [concrete, isNullType] at hc
      | several _ ha => exact absurd ha (by decide)
      | nullable hv _ => exact absurd hv (by decide)
  exact ⟨by decide, by decide, by decide, by decide, hnot,
    meets_of_takes (by decide) (by decide) (by decide) (by decide) hnot⟩

/-- Schemas, each with a value and the keyword that is given up for it: a constant beside an
enumeration, several types beside alternatives, null as the only type, and a schema that was
nullable. -/
def givenUp : List (Entries Json × Json × String) := [
  ([("const", .ofNat 1), ("enum", .array [.ofNat 1, .ofNat 2])], .ofNat 2, "const"),
  ([("type", .array [.string "integer", .string "string"]), ("anyOf", .array [.object []])],
    .bool true, "type"),
  ([("type", .array [.string "null"])], .ofNat 7, "type"),
  ([("type", .string "string"), ("nullable", .bool true)], .null, "type")]

/-- The lowered schema takes the value, which the keyword refuses. -/
theorem takes_givenUp : givenUp.all (fun entry =>
    decide entry.1.keys.Nodup && (entry.1.get? "type").all (Form.types typeNames).has &&
      choiceKeys.contains entry.2.2 && takes entry.1 entry.2.1 &&
        !meets .draft7 entry.1 entry.2.2 entry.2.1) = true := by
  decide

end RouteDoc.Schema
