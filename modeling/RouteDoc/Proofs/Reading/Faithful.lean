import Mathlib.Data.List.Forall2
import RouteDoc.Operation.Written
import RouteDoc.Proofs.Entries
import RouteDoc.Reading.Source

namespace RouteDoc

theorem exists_of_forall₂ {α β : Type} {R : α → β → Prop} {xs : List α} {ys : List β}
    (h : List.Forall₂ R xs ys) : ∀ y ∈ ys, ∃ x, R x y := by
  induction h with
  | nil => exact fun _ hm => nomatch hm
  | cons hr _ ih => exact List.forall_mem_cons.mpr ⟨⟨_, hr⟩, ih⟩

namespace Reading

variable {α : Type} {reader : Reader α} {write : α → Json} {value : Json} {outcome : α}

/-- The outcome is read from what is written for it. -/
def Restored (reader : Reader α) (write : α → Json) (outcome : α) : Prop :=
  reader (.json (write outcome)) = .ok outcome

/-- Whatever is read from JSON is read again from what is written for it. -/
def Faithful (reader : Reader α) (write : α → Json) : Prop :=
  ∀ value outcome, reader (.json value) = .ok outcome → Restored reader write outcome

theorem locate_json (value : Json) (result : Except Fault α) :
    (Source.json value).locate result = result := by
  cases result <;> rfl

theorem faithful_text : Faithful text Json.string := fun _ _ _ => rfl

theorem faithful_flag : Faithful flag Json.bool := fun _ _ _ => rfl

theorem faithful_value : Faithful Reading.value id := fun _ _ _ => rfl

section Optional

/-- An absent value is written as null. -/
def orNull (write : α → Json) (outcome : Option α) : Json := (outcome.map write).getD .null

theorem restored_none : Restored (optional reader) (orNull write) none := rfl

theorem optional_of_ne_null (h : value ≠ .null) :
    optional reader (.json value) = some <$> reader (.json value) := by
  cases value with
  | null => exact absurd rfl h
  | _ => rfl

/-- Null is read as nothing, so it must not be written for anything. -/
theorem faithful_optional (h : Faithful reader write)
    (hn : ∀ value outcome, reader (.json value) = .ok outcome → write outcome = .null →
      value = .null) : Faithful (optional reader) (orNull write) := by
  intro value outcome hr
  by_cases hv : value = .null
  · subst hv
    cases hr
    exact restored_none
  · rw [optional_of_ne_null hv] at hr
    cases hread : reader (.json value) with
    | error fault =>
      rw [hread] at hr
      cases hr
    | ok found =>
      rw [hread] at hr
      cases hr
      have hwritten : write found ≠ .null := fun he => hv (hn value found hread he)
      have hback : reader (.json (write found)) = .ok found := h value found hread
      calc optional reader (.json (write found))
          _ = some <$> reader (.json (write found)) := optional_of_ne_null hwritten
          _ = .ok (some found) := by rw [hback]; rfl

end Optional

section Lists

variable {items : List Json} {outcomes : List α}

/-- The items of a list are read one by one. -/
theorem readItems_iff : readItems reader (items.map .json) = .ok outcomes ↔
    List.Forall₂ (fun item outcome => reader (.json item) = .ok outcome) items outcomes := by
  induction items generalizing outcomes with
  | nil =>
    simp only [List.map_nil, readItems, Except.ok.injEq, List.forall₂_nil_left_iff]
    exact eq_comm
  | cons item rest ih =>
    rw [List.map_cons, readItems]
    constructor
    · intro h
      cases hitem : reader (.json item) with
      | error fault =>
        rw [hitem] at h
        cases h
      | ok first =>
        rw [hitem] at h
        cases hrest : readItems reader (rest.map .json) with
        | error fault =>
          rw [hrest] at h
          cases h
        | ok others =>
          rw [hrest] at h
          cases h
          exact .cons hitem (ih.mp hrest)
    · intro h
      cases h with
      | cons hitem hrest =>
        rw [hitem, ih.mpr hrest]
        rfl

theorem listOf_array (items : List Json) :
    listOf reader (.json (.array items)) = readItems reader (items.map .json) :=
  locate_json (Json.array items) _

theorem faithful_listOf (h : Faithful reader write) :
    Faithful (listOf reader) fun outcomes => .array (outcomes.map write) := by
  intro value outcomes hr
  cases value with
  | array items =>
    rw [listOf_array] at hr
    have hrestored : ∀ outcome ∈ outcomes, Restored reader write outcome := by
      intro outcome hm
      obtain ⟨item, hitem⟩ := exists_of_forall₂ (readItems_iff.mp hr) outcome hm
      exact h item outcome hitem
    rw [Restored, listOf_array, readItems_iff, List.forall₂_map_left_iff, List.forall₂_same]
    exact hrestored
  | _ => cases hr

end Lists

section Maps

variable {entries : Entries Json} {outcomes done : Entries α}

/-- The members of an object as sources. -/
def memberSources (entries : Entries Json) : List (Source × Source) :=
  entries.map fun (key, value) => (.json (.string key), .json value)

/-- The values of a map are read one by one, and inserted under their keys. -/
theorem readMembers_iff : readMembers reader done (memberSources entries) = .ok outcomes ↔
    ∃ read : List (String × α),
      List.Forall₂ (fun entry found => entry.1 = found.1 ∧ reader (.json entry.2) = .ok found.2)
        entries read ∧
      outcomes = Entries.insertAll done read := by
  induction entries generalizing done with
  | nil =>
    simp only [memberSources, List.map_nil, readMembers, Except.ok.injEq,
      List.forall₂_nil_left_iff, exists_eq_left]
    exact eq_comm
  | cons entry rest ih =>
    obtain ⟨key, value⟩ := entry
    have hstep : readMembers reader done (memberSources ((key, value) :: rest)) =
        (do
          let found ← reader (.json value)
          readMembers reader (done.insert key found) (memberSources rest)) := rfl
    rw [hstep]
    constructor
    · intro h
      cases hvalue : reader (.json value) with
      | error fault =>
        rw [hvalue] at h
        cases h
      | ok found =>
        rw [hvalue] at h
        obtain ⟨read, hread, rfl⟩ := ih.mp h
        exact ⟨(key, found) :: read, .cons ⟨rfl, hvalue⟩ hread, rfl⟩
    · rintro ⟨read, hread, rfl⟩
      cases hread with
      | @cons _ first _ others hfirst hothers =>
        obtain ⟨name, found⟩ := first
        obtain ⟨rfl, hvalue⟩ := hfirst
        rw [hvalue]
        exact ih.mpr ⟨others, hothers, rfl⟩

theorem mapOf_object (entries : Entries Json) :
    mapOf reader (.json (.object entries)) = readMembers reader [] (memberSources entries) :=
  locate_json (Json.object entries) _

theorem faithful_mapOf (h : Faithful reader write) :
    Faithful (mapOf reader) (Json.ofEntries write) := by
  intro value outcomes hr
  cases value with
  | object entries =>
    rw [mapOf_object] at hr
    obtain ⟨read, hall, hinserted⟩ := readMembers_iff.mp hr
    have hlist : outcomes = Entries.ofList read := hinserted
    have hkeys : (Entries.keys outcomes).Nodup := hlist ▸ Entries.nodup_ofList read
    have hrestored : ∀ found ∈ outcomes, Restored reader write found.2 := by
      intro found hm
      rw [hlist] at hm
      obtain ⟨entry, hentry⟩ := exists_of_forall₂ hall found (Entries.mem_of_mem_ofList hm)
      exact h entry.2 found.2 hentry.2
    refine (mapOf_object _).trans (readMembers_iff.mpr ⟨outcomes, ?_, ?_⟩)
    · rw [List.forall₂_map_left_iff, List.forall₂_same]
      exact fun found hm => ⟨rfl, hrestored found hm⟩
    · exact (Entries.ofList_of_nodup hkeys).symm
  | _ => cases hr

/-- A map of plain values is an object as it stands. -/
theorem faithful_mapOf_value : Faithful (mapOf Reading.value) Json.object := by
  have hwrite : Json.ofEntries id = Json.object := by
    funext entries
    exact congrArg Json.object (List.map_id entries)
  exact hwrite ▸ faithful_mapOf faithful_value

end Maps

end Reading
end RouteDoc
