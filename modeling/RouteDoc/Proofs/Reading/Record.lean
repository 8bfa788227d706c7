import RouteDoc.Proofs.Json.Alike
import RouteDoc.Proofs.Reading.Faithful
import RouteDoc.Reading.Fields

namespace RouteDoc

namespace Entries

variable {α : Type}

@[simp] theorem valuesAt_nil (key : String) : valuesAt key ([] : Entries α) = [] := rfl

@[simp] theorem valuesAt_cons (key name : String) (value : α) (rest : Entries α) :
    valuesAt key ((name, value) :: rest) =
      (if name = key then [value] else []) ++ valuesAt key rest := by
  by_cases h : name = key <;> simp [valuesAt, h]

@[simp] theorem valuesAt_append (key : String) (first second : Entries α) :
    valuesAt key (first ++ second) = valuesAt key first ++ valuesAt key second := by
  induction first with
  | nil => rfl
  | cons entry rest ih =>
    obtain ⟨name, value⟩ := entry
    rw [List.cons_append, valuesAt_cons, valuesAt_cons, ih, List.append_assoc]

@[simp] theorem valuesAt_optional (key name : String) (value : Option Json) :
    valuesAt key (Json.optional name value) = if name = key then value.toList else [] := by
  cases value <;> by_cases h : name = key <;> simp [Json.optional, valuesAt, h]

@[simp] theorem valuesAt_optionalString (key name : String) (value : Option String) :
    valuesAt key (Json.optionalString name value) =
      if name = key then (value.map Json.string).toList else [] :=
  valuesAt_optional key name _

theorem valuesAt_eq_nil {key : String} {entries : Entries α} (h : key ∉ entries.keys) :
    valuesAt key entries = [] := by
  have hnone := get?_eq_none_iff.mpr h
  rw [← head?_valuesAt] at hnone
  exact List.head?_eq_none_iff.mp hnone

end Entries

namespace Reading

variable {α β : Type} {entries : Entries Json}

/-- The members of an object, each with its value as the source. -/
def jsonMembers (entries : Entries Json) : List Member :=
  entries.map fun (name, value) => ⟨name, .json value⟩

theorem jsonMembers_cons (name : String) (value : Json) (rest : Entries Json) :
    jsonMembers ((name, value) :: rest) = ⟨name, .json value⟩ :: jsonMembers rest := rfl

namespace Fields

variable {name : String} {reader : Reader α} {absent : Option α} {outcome : α} {write : α → Json}

@[simp] theorem names_of (value : α) : (Fields.of value).names = [] := rfl

@[simp] theorem names_field (fields : Fields (α → β)) (next : Fields α) :
    (fields.field next).names = fields.names ++ next.names := rfl

@[simp] theorem names_required : (required name reader).names = [name] := rfl

@[simp] theorem names_withDefault (value : α) : (withDefault name reader value).names = [name] :=
  rfl

@[simp] theorem names_maybe : (maybe name reader).names = [name] := rfl

theorem occurrences_jsonMembers (name : String) (entries : Entries Json) :
    (occurrences name (jsonMembers entries)).map Prod.snd =
      (entries.valuesAt name).map Source.json := by
  suffices hfrom : ∀ start, (((jsonMembers entries).zipIdx start).filterMap fun pair =>
      if pair.1.name = name then some (pair.2, pair.1.source) else none).map Prod.snd =
        (entries.valuesAt name).map Source.json from hfrom 0
  induction entries with
  | nil => exact fun _ => rfl
  | cons entry rest ih =>
    obtain ⟨key, value⟩ := entry
    intro start
    have hrest := ih (start + 1)
    by_cases h : key = name <;> simpa [jsonMembers, Entries.valuesAt, h] using hrest

/-- A field looks at the members of its name alone. -/
theorem named_one_iff : (one name reader absent).named (jsonMembers entries) = .ok outcome ↔
    (∃ value, entries.valuesAt name = [value] ∧ reader (.json value) = .ok outcome) ∨
      entries.valuesAt name = [] ∧ absent = some outcome := by
  have hvalues := occurrences_jsonMembers name entries
  rw [one]
  dsimp only
  cases hfound : occurrences name (jsonMembers entries) with
  | nil =>
    rw [hfound, List.map_nil, eq_comm, List.map_eq_nil_iff] at hvalues
    rw [hvalues]
    cases absent <;> simp
  | cons first others =>
    obtain ⟨index, source⟩ := first
    rw [hfound, List.map_cons, eq_comm, List.map_eq_cons_iff] at hvalues
    obtain ⟨value, rest, hat, rfl, hrest⟩ := hvalues
    rw [hat]
    dsimp only
    cases hread : reader (.json value) with
    | error fault => simp [hread]
    | ok found =>
      cases others with
      | nil =>
        rw [List.map_nil, List.map_eq_nil_iff] at hrest
        simp [hrest, hread]
      | cons second more =>
        rw [List.map_cons, List.map_eq_cons_iff] at hrest
        obtain ⟨again, tail, rfl, _, _⟩ := hrest
        simp

theorem named_given {value : Json} (h : entries.valuesAt name = [value])
    (hr : reader (.json value) = .ok outcome) :
    (one name reader absent).named (jsonMembers entries) = .ok outcome :=
  named_one_iff.mpr (.inl ⟨value, h, hr⟩)

/-- A value that may be absent is written as a member of its own or not at all. -/
theorem named_maybe {outcome : Option α} (h : entries.valuesAt name = (outcome.map write).toList)
    (hr : Restored (optional reader) (orNull write) outcome) :
    (maybe name reader).named (jsonMembers entries) = .ok outcome := by
  cases outcome with
  | none => exact named_one_iff.mpr (.inr ⟨h, rfl⟩)
  | some found => exact named_given h hr

theorem both_ok_iff {f : Positioned (α → β)} {x : Positioned α} {outcome : β} :
    both f x = .ok outcome ↔ ∃ g z, f = .ok g ∧ x = .ok z ∧ outcome = g z := by
  rcases f with ⟨i, fault⟩ | g <;> rcases x with ⟨j, other⟩ | z
  · rw [both]
    split <;> simp
  · simp [both]
  · simp [both]
  · simp [both, eq_comm]

theorem named_field {fields : Fields (α → β)} {next : Fields α} {members : List Member}
    {g : α → β} (hf : fields.named members = .ok g) (hx : next.named members = .ok outcome) :
    (fields.field next).named members = .ok (g outcome) :=
  both_ok_iff.mpr ⟨g, outcome, hf, hx, rfl⟩

/-- Whatever the fields read from JSON, by names or from a list, has a property. -/
structure Gives (fields : Fields α) (P : α → Prop) : Prop where
  named {entries : Entries Json} {outcome : α} :
    fields.named (jsonMembers entries) = .ok outcome → P outcome
  listed {expected : String} {taken count : Nat} {items : List Json} {rest : List Source}
    {outcome : α} : fields.listed expected taken (items.map .json) = .ok (outcome, count, rest) →
      P outcome ∧ ∃ left : List Json, rest = left.map .json

namespace Gives

variable {P : α → Prop} {fields : Fields (α → β)} {next : Fields α} {Q : β → Prop}

theorem of {value : α} (h : P value) : Gives (.of value) P where
  named hr := by
    cases hr
    exact h
  listed hr := by
    cases hr
    exact ⟨h, _, rfl⟩

/-- The fields before the last give a function that turns each of its values into an outcome. -/
theorem field (hf : Gives fields fun g => ∀ z, P z → Q (g z)) (hx : Gives next P) :
    Gives (fields.field next) Q where
  named hr := by
    obtain ⟨g, z, hg, hz, rfl⟩ := both_ok_iff.mp hr
    exact hf.named hg z (hx.named hz)
  listed {expected taken count items rest outcome} hr := by
    rw [Fields.field] at hr
    dsimp only at hr
    cases hg : fields.listed expected taken (items.map .json) with
    | error fault =>
      rw [hg] at hr
      cases hr
    | ok found =>
      obtain ⟨g, middle, remaining⟩ := found
      obtain ⟨hfirst, left, rfl⟩ := hf.listed hg
      cases hz : next.listed expected middle (left.map .json) with
      | error fault =>
        simp only [hg, hz, bind, Except.bind] at hr
        cases hr
      | ok last =>
        obtain ⟨z, final, others⟩ := last
        simp only [hg, hz, bind, Except.bind, pure, Except.pure] at hr
        cases hr
        obtain ⟨hlast, hleft⟩ := hx.listed hz
        exact ⟨hfirst z hlast, hleft⟩

theorem one (hr : ∀ value outcome, reader (.json value) = .ok outcome → P outcome)
    (ha : ∀ outcome, absent = some outcome → P outcome) : Gives (.one name reader absent) P where
  named h := by
    rcases named_one_iff.mp h with ⟨value, _, hread⟩ | ⟨_, habsent⟩
    · exact hr value _ hread
    · exact ha _ habsent
  listed {expected taken count items rest outcome} h := by
    rw [Fields.one] at h
    cases items with
    | nil =>
      cases absent with
      | none => cases h
      | some value =>
        cases h
        exact ⟨ha _ rfl, [], rfl⟩
    | cons item others =>
      simp only [List.map_cons] at h
      cases hread : reader (.json item) with
      | error fault =>
        rw [hread] at h
        cases h
      | ok found =>
        rw [hread] at h
        cases h
        exact ⟨hr item _ hread, others, rfl⟩

theorem required (h : Faithful reader write) :
    Gives (.required name reader) (Restored reader write) :=
  one h nofun

theorem withDefault {value : α} (h : Faithful reader write) (hv : Restored reader write value) :
    Gives (.withDefault name reader value) (Restored reader write) :=
  one h fun _ he => Option.some.inj he ▸ hv

theorem maybe (h : Faithful (optional reader) (orNull write)) :
    Gives (.maybe name reader) (Restored (optional reader) (orNull write)) :=
  one h fun _ he => Option.some.inj he ▸ restored_none

end Gives

end Fields

section Others

variable {known : List String} {extra : Entries Json}

/-- Members whose names are not known, each name once. -/
structure Unknown (known : List String) (extra : Entries Json) : Prop where
  nodup : extra.keys.Nodup
  free : ∀ key ∈ extra.keys, key ∉ known

/-- The members that a record does not know by name. -/
def unknownOf (known : List String) (entries : Entries Json) : Entries Json :=
  entries.filter fun entry => !known.contains entry.1

@[simp] theorem unknownOf_nil : unknownOf known [] = [] := rfl

@[simp] theorem unknownOf_cons (name : String) (value : Json) (rest : Entries Json) :
    unknownOf known ((name, value) :: rest) =
      if name ∈ known then unknownOf known rest else (name, value) :: unknownOf known rest := by
  by_cases h : name ∈ known
  · rw [if_pos h]
    exact List.filter_cons_of_neg (by simpa using h)
  · rw [if_neg h]
    exact List.filter_cons_of_pos (by simpa using h)

@[simp] theorem unknownOf_append (first second : Entries Json) :
    unknownOf known (first ++ second) = unknownOf known first ++ unknownOf known second :=
  List.filter_append ..

@[simp] theorem unknownOf_optional (name : String) (value : Option Json) :
    unknownOf known (Json.optional name value) =
      if name ∈ known then [] else Json.optional name value := by
  cases value with
  | none => exact (ite_self _).symm
  | some found => exact unknownOf_cons name found []

@[simp] theorem unknownOf_optionalString (name : String) (value : Option String) :
    unknownOf known (Json.optionalString name value) =
      if name ∈ known then [] else Json.optionalString name value :=
  unknownOf_optional name _

theorem Unknown.unknownOf (h : Unknown known extra) : unknownOf known extra = extra := by
  refine List.filter_eq_self.mpr fun entry hm => ?_
  have hfree := h.free entry.1 (List.mem_map_of_mem hm)
  simpa using hfree

theorem Unknown.valuesAt {name : String} (h : Unknown known extra) (hk : name ∈ known) :
    extra.valuesAt name = [] :=
  Entries.valuesAt_eq_nil fun hm => h.free name hm hk

theorem collect_json (known : List String) (index : Nat) (entries : Entries Json) :
    Fields.others.collect known index (jsonMembers entries) =
      .ok (.ok (unknownOf known entries)) := by
  induction entries generalizing index with
  | nil => rfl
  | cons entry rest ih =>
    obtain ⟨name, value⟩ := entry
    rw [jsonMembers_cons, Fields.others.collect, ih, unknownOf_cons]
    simp only [List.contains_iff_mem]
    split <;> rfl

theorem named_others (known : List String) (entries : Entries Json) :
    (Fields.others known).named (jsonMembers entries) =
      .ok (Entries.ofList (unknownOf known entries)) := by
  rw [Fields.others]
  dsimp only
  rw [collect_json]

theorem Fields.Gives.others : Gives (.others known) (Unknown known) where
  named {entries outcome} h := by
    rw [named_others] at h
    cases h
    refine ⟨Entries.nodup_ofList _, fun key hm => ?_⟩
    obtain ⟨entry, he, rfl⟩ := List.mem_map.mp hm
    have hfree := (List.mem_filter.mp (Entries.mem_of_mem_ofList he)).2
    simpa using hfree
  listed h := by
    cases h
    exact ⟨⟨List.nodup_nil, fun _ hm => nomatch hm⟩, _, rfl⟩

/-- What a record does not know is found again behind what it knows. -/
theorem named_unknown {fixed : Entries Json} (hf : unknownOf known fixed = [])
    (h : Unknown known extra) :
    (Fields.others known).named (jsonMembers (fixed ++ extra)) = .ok extra := by
  rw [named_others, unknownOf_append, hf, List.nil_append, h.unknownOf,
    Entries.ofList_of_nodup h.nodup]

end Others

section Records

variable {fields : Fields α} {write : α → Json} {name : String} {outcome : α}

theorem namedMembers_json (entries : Entries Json) :
    namedMembers (memberSources entries) = (jsonMembers entries, none) := by
  induction entries with
  | nil => rfl
  | cons entry rest ih =>
    obtain ⟨key, value⟩ := entry
    have hcons : memberSources ((key, value) :: rest) =
        (.json (.string key), .json value) :: memberSources rest := rfl
    have hkey : textAs "field identifier" (.json (.string key)) = .ok key := rfl
    rw [hcons, namedMembers, hkey, ih, jsonMembers_cons]

theorem skipUnknown_json (names : List String) (index : Nat) (entries : Entries Json) :
    skipUnknown names index (jsonMembers entries) = .ok () := by
  induction entries generalizing index with
  | nil => rfl
  | cons entry rest ih =>
    obtain ⟨name, value⟩ := entry
    rw [jsonMembers_cons, skipUnknown, ih]
    exact ite_self _

theorem readNamed_iff {ignored : List Member → Positioned Unit}
    (h : ignored (jsonMembers entries) = .ok ()) :
    readNamed fields ignored (memberSources entries) = .ok outcome ↔
      fields.named (jsonMembers entries) = .ok outcome := by
  rw [readNamed, namedMembers_json]
  dsimp only
  rw [h]
  cases fields.named (jsonMembers entries) <;> simp [Fields.both, Functor.map, Except.map]

/-- The fields find what they gave in what is written for it. -/
def Recovered (fields : Fields α) (write : α → Json) (outcome : α) : Prop :=
  ∃ written, write outcome = .object written ∧ fields.named (jsonMembers written) = .ok outcome

theorem faithful_record (h : fields.Gives (Recovered fields write)) :
    Faithful (record name fields) write := by
  have hobject (entries : Entries Json) {outcome : α} :
      record name fields (.json (.object entries)) = .ok outcome ↔
        fields.named (jsonMembers entries) = .ok outcome := by
    have hread : record name fields (.json (.object entries)) =
        readNamed fields (skipUnknown fields.names 0) (memberSources entries) :=
      locate_json (Json.object entries) _
    rw [hread, readNamed_iff (skipUnknown_json _ _ _)]
  intro value outcome hr
  suffices hrecovered : Recovered fields write outcome by
    obtain ⟨written, hw, hnamed⟩ := hrecovered
    rw [Restored, hw, hobject]
    exact hnamed
  cases value with
  | object entries => exact h.named ((hobject entries).mp hr)
  | array items =>
    have hread : record name fields (.json (.array items)) = (do
        let found ← fields.listed (recordWords name fields.names.length) 0 (items.map .json)
        checkRest (.json (.array items)) (items.map Source.json).length found.2.1 found.2.2
        return found.1) := locate_json (Json.array items) _
    rw [hread] at hr
    cases hl : fields.listed (recordWords name fields.names.length) 0 (items.map .json) with
    | error fault =>
      rw [hl] at hr
      cases hr
    | ok found =>
      obtain ⟨first, taken, rest⟩ := found
      simp only [hl, bind, Except.bind] at hr
      split at hr
      · cases hr
      · cases hr
        exact (h.listed hl).1
  | _ => cases hr

/-- A record with unknown members is never read from a list. -/
theorem faithful_openRecord {fields : Fields (Entries Json → α)}
    (h : (fields.field (.others fields.names)).Gives
      (Recovered (fields.field (.others fields.names)) write)) :
    Faithful (openRecord name fields) write := by
  have hobject (entries : Entries Json) {outcome : α} :
      openRecord name fields (.json (.object entries)) = .ok outcome ↔
        (fields.field (.others fields.names)).named (jsonMembers entries) = .ok outcome := by
    have hread : openRecord name fields (.json (.object entries)) =
        readNamed (fields.field (.others fields.names)) (fun _ => .ok ())
          (memberSources entries) := locate_json (Json.object entries) _
    rw [hread, readNamed_iff rfl]
  intro value outcome hr
  cases value with
  | object entries =>
    obtain ⟨written, hw, hnamed⟩ := h.named ((hobject entries).mp hr)
    rw [Restored, hw, hobject]
    exact hnamed
  | _ => cases hr

end Records

end Reading
end RouteDoc
