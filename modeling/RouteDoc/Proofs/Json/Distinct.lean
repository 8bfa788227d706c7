import RouteDoc.Proofs.Entries
import RouteDoc.Json.Basic

namespace RouteDoc.Json

mutual

/-- No object in the value has a key twice. -/
def distinct : Json → Bool
  | .object members => (Entries.keys members).Nodup && distinctMembers members
  | .array items => distinctItems items
  | _ => true
termination_by structural value => value

def distinctMembers : List (String × Json) → Bool
  | [] => true
  | (_, value) :: rest => distinct value && distinctMembers rest

def distinctItems : List Json → Bool
  | [] => true
  | item :: rest => distinct item && distinctItems rest

end

theorem distinct_object {members : Entries Json} : distinct (.object members) = true ↔
    members.keys.Nodup ∧ ∀ entry ∈ members, distinct entry.2 = true := by
  have hmembers : ∀ entries : Entries Json, distinctMembers entries = true ↔
      ∀ entry ∈ entries, distinct entry.2 = true := by
    intro entries
    induction entries with
    | nil => simp [distinctMembers]
    | cons entry rest ih => simp [distinctMembers, ih]
  rw [distinct, Bool.and_eq_true, decide_eq_true_eq, hmembers]

theorem distinct_get? {members : Entries Json} {key : String} {value : Json}
    (hd : distinct (.object members) = true) (hg : members.get? key = some value) :
    distinct value = true :=
  (distinct_object.mp hd).2 _ (Entries.mem_of_get? hg)

theorem distinct_of_get? {value inner : Json} {key : String} (hd : value.distinct = true)
    (hg : value.get? key = some inner) : inner.distinct = true := by
  cases value with
  | object members => exact distinct_get? hd hg
  | _ => cases hg

theorem nodup_entriesAt {value : Json} (hd : value.distinct = true) (key : String) :
    (value.entriesAt key).keys.Nodup := by
  unfold entriesAt
  cases hg : value.get? key with
  | none => exact List.nodup_nil
  | some inner =>
    cases inner with
    | object members => exact (distinct_object.mp (distinct_of_get? hd hg)).1
    | _ => exact List.nodup_nil

theorem distinct_array {items : List Json} : distinct (.array items) = true ↔
    ∀ item ∈ items, distinct item = true := by
  rw [distinct]
  induction items with
  | nil => simp [distinctItems]
  | cons item rest ih => simp [distinctItems, ih]

end RouteDoc.Json
