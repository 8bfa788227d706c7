import RouteDoc.Proofs.Json.Distinct
import RouteDoc.Proofs.Schema.Keys

namespace RouteDoc.Schema

open Check (mentions)

variable {members : Entries Json} {key : String} {value : Json}

/-- A member that folding writes is no list of patterns, and its value is a text or was folded. -/
theorem Folded.source (h : Folded members key value) : key ≠ patternKey ∧
    ((∃ text, value = .string text) ∨
      ∃ inner, nesting inner < nesting (.object members) ∧ value = foldPatterns inner) := by
  cases h with
  | @kept key value hm hk => exact ⟨hk, .inr ⟨value, nesting_lt_members hm, rfl⟩⟩
  | @schema pattern schema others hm =>
    have hfirst : nesting schema < nesting (.object ((pattern, schema) :: others)) :=
      nesting_lt_members List.mem_cons_self
    have hless := Nat.lt_trans hfirst (nesting_lt_members hm)
    exact ⟨by decide, .inr ⟨schema, hless, rfl⟩⟩
  | note _ => exact ⟨by decide, .inl ⟨_, rfl⟩⟩

/-- Whatever is folded, no patterns are left in it. -/
theorem mentions_pattern_fold (value : Json) : mentions patternKey (foldPatterns value) = false := by
  induction value using nesting_induction with
  | step value ih =>
    cases value with
    | object members =>
      refine lacks_iff.mp (foldMembers_induction (fun _ hm => nomatch hm) fun hw hl => ?_)
      obtain ⟨hk, hsource⟩ := hw.source
      rcases hsource with ⟨text, rfl⟩ | ⟨inner, hless, rfl⟩
      · exact hl.insert hk rfl
      · exact hl.insert hk (ih inner hless)
    | array items =>
      rw [foldPatterns, foldItems_eq, mentions_array]
      intro item hm
      obtain ⟨before, hb, rfl⟩ := List.mem_map.mp hm
      exact ih before (nesting_lt_items hb)
    | _ => rfl

/-- Folding inserts members one by one, so that no key stands twice afterwards. -/
theorem distinct_foldPatterns (value : Json) : (foldPatterns value).distinct = true := by
  induction value using nesting_induction with
  | step value ih =>
    cases value with
    | object members =>
      refine Json.distinct_object.mpr (foldMembers_induction
        (P := fun entries => entries.keys.Nodup ∧ ∀ entry ∈ entries, entry.2.distinct = true)
        ⟨List.nodup_nil, fun _ hm => nomatch hm⟩ ?_)
      rintro entries key value hw ⟨hkeys, hvalues⟩
      refine ⟨Entries.nodup_insert hkeys, fun entry hm => ?_⟩
      rcases Entries.mem_insert hm with rfl | hm
      · rcases hw.source.2 with ⟨text, rfl⟩ | ⟨inner, hless, rfl⟩
        · rfl
        · exact ih inner hless
      · exact hvalues entry hm
    | array items =>
      rw [foldPatterns, foldItems_eq, Json.distinct_array]
      intro item hm
      obtain ⟨before, hb, rfl⟩ := List.mem_map.mp hm
      exact ih before (nesting_lt_items hb)
    | _ => rfl

/-- A value without patterns stays as it is, the order of its members included. -/
theorem foldPatterns_of_patternFree (hd : value.distinct = true)
    (h : mentions patternKey value = false) : foldPatterns value = value := by
  induction value using nesting_induction with
  | step value ih =>
    cases value with
    | object members =>
      obtain ⟨hkeys, hvalues⟩ := Json.distinct_object.mp hd
      have hlacks : Lacks patternKey members := lacks_iff.mpr h
      have hfree : patternKey ∉ Entries.keys members := by
        intro hm
        obtain ⟨entry, he, hkey⟩ := List.mem_map.mp hm
        exact (hlacks entry he).1 hkey
      have hsame : (members.map fun entry => (entry.1, foldPatterns entry.2)) = members := by
        refine (List.map_congr_left fun entry hm => ?_).trans (List.map_id members)
        have hvalue := ih entry.2 (nesting_lt_members hm) (hvalues entry hm) (hlacks entry hm).2
        exact Prod.ext rfl hvalue
      have hfolded : foldMembers [] members =
          members.map fun entry => (entry.1, foldPatterns entry.2) := foldMembers_eq hkeys hfree
      rw [foldPatterns, hfolded, hsame]
    | array items =>
      have hsame : items.map foldPatterns = items := by
        refine (List.map_congr_left fun item hm => ?_).trans (List.map_id items)
        exact ih item (nesting_lt_items hm) (Json.distinct_array.mp hd item hm)
          (mentions_array.mp h item hm)
      rw [foldPatterns, foldItems_eq, hsame]
    | _ => rfl

/-- Folding leaves no patterns, changes exactly the values that have some, and has nothing to do a
second time. -/
theorem foldPatterns_fixed (hd : value.distinct = true) :
    mentions patternKey (foldPatterns value) = false ∧
      (foldPatterns value = value ↔ mentions patternKey value = false) ∧
        foldPatterns (foldPatterns value) = foldPatterns value := by
  have hnone := mentions_pattern_fold value
  refine ⟨hnone, ⟨fun hsame => ?_, foldPatterns_of_patternFree hd⟩, ?_⟩
  · rwa [hsame] at hnone
  · exact foldPatterns_of_patternFree (distinct_foldPatterns value) hnone

/-- Patterns below patterns, beside the schema for additional properties that they replace. -/
def codesSchema : Json := .object [
  ("additionalProperties", .bool false),
  ("type", .string "object"),
  ("patternProperties", .object [
    ("^[A-Z]+$", .object [("patternProperties", .object [("^[0-9]$", .object [])])]),
    ("^x", .bool true)])]

def foldedCodes : Json := .object [
  ("additionalProperties", .object [
    ("additionalProperties", .object []), ("x-pattern", .string "^[0-9]$")]),
  ("type", .string "object"), ("x-pattern", .string "^[A-Z]+$")]

theorem foldPatterns_fixed_codes : codesSchema.distinct = true ∧
    foldPatterns codesSchema = foldedCodes ∧ foldPatterns codesSchema ≠ codesSchema ∧
      mentions patternKey foldedCodes = false ∧ foldPatterns foldedCodes = foldedCodes := by
  have hd : codesSchema.distinct = true := by decide
  have hfolded : foldPatterns codesSchema = foldedCodes := rfl
  obtain ⟨hnone, hsame, hagain⟩ := foldPatterns_fixed hd
  have hchanged : foldPatterns codesSchema ≠ codesSchema := by
    intro he
    exact absurd (hsame.mp he) (by decide)
  rw [hfolded] at hnone hagain
  exact ⟨hd, hfolded, hchanged, hnone, hagain⟩

end RouteDoc.Schema
