namespace RouteDoc

/-- Entries in the order in which their keys were first inserted. Inserting a known key keeps its
place, and removing a key moves the last entry into the gap. -/
abbrev Entries (α : Type) := List (String × α)

namespace Entries

variable {α : Type}

/-- The value of the first entry with this key. -/
def get? (key : String) : Entries α → Option α
  | [] => none
  | (k, v) :: rest => if k = key then some v else get? key rest

def has (key : String) (entries : Entries α) : Bool :=
  (get? key entries).isSome

def keys (entries : Entries α) : List String :=
  entries.map Prod.fst

/-- A known key keeps its place and takes the new value; a new key goes last. -/
def insert (key : String) (value : α) : Entries α → Entries α
  | [] => [(key, value)]
  | (k, v) :: rest => if k = key then (k, value) :: rest else (k, v) :: insert key value rest

/-- The last entry moves into the place of the removed one. -/
def erase (key : String) : Entries α → Entries α
  | [] => []
  | (k, v) :: rest =>
    if k = key then
      match rest.getLast? with
      | none => []
      | some last => last :: rest.dropLast
    else (k, v) :: erase key rest

/-- Inserts the pairs one by one, so the last value of a repeated key stands at its first place. -/
def ofList (pairs : List (String × α)) : Entries α :=
  pairs.foldl (fun entries (key, value) => entries.insert key value) []

theorem get?_insert_self (key : String) (value : α) (entries : Entries α) :
    (entries.insert key value).get? key = some value := by
  induction entries with
  | nil => simp [insert, get?]
  | cons entry rest ih =>
    obtain ⟨k, v⟩ := entry
    by_cases h : k = key <;> simp [insert, get?, h, ih]

theorem get?_insert_of_ne {key other : String} (value : α) (entries : Entries α)
    (h : key ≠ other) : (entries.insert key value).get? other = entries.get? other := by
  induction entries with
  | nil => simp [insert, get?, h]
  | cons entry rest ih =>
    obtain ⟨k, v⟩ := entry
    by_cases hk : k = key
    · subst hk; simp [insert, get?, h]
    · by_cases ho : k = other
      · subst ho; simp [insert, get?, hk]
      · simp [insert, get?, hk, ho, ih]

/-- The keys after an insertion: unchanged for a known key, else one longer. -/
theorem keys_insert (key : String) (value : α) (entries : Entries α) :
    (entries.insert key value).keys =
      if key ∈ entries.keys then entries.keys else entries.keys ++ [key] := by
  induction entries with
  | nil => simp [insert, keys]
  | cons entry rest ih =>
    obtain ⟨k, v⟩ := entry
    simp only [keys] at ih ⊢
    by_cases hk : k = key
    · simp [insert, hk]
    · have hne : key ≠ k := fun e => hk e.symm
      by_cases hm : key ∈ rest.map Prod.fst <;> simp_all [insert]

end Entries
end RouteDoc
