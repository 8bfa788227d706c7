import RouteDoc.Proofs.Document.Commuting

namespace RouteDoc

open Component

namespace Document

open Piece (Slot writeAll)

/-- The piece in a place of the document. -/
def pieceAt? (document : Document) : Slot → Option Piece
  | .component place name =>
    (document.components.get? place name).map fun value => .component ⟨place, name, value⟩
  | .operation path key =>
    ((document.paths.get? path).bind (Entries.get? key)).map (.operation path key)

variable {piece : Piece} {slot : Slot} {list : List Piece} {document next after : Document}

theorem pieceAt?_component {place : Section} {name : String} {value : Json} :
    document.pieceAt? (.component place name) = some (.component ⟨place, name, value⟩) ↔
      document.components.get? place name = some value := by
  simp [pieceAt?]

theorem pieceAt?_operation {path method : String} {operation : Operation} :
    document.pieceAt? (.operation path (Text.lower method)) =
        some (.operation path (Text.lower method) operation) ↔
      document.operation? path method = some operation := by
  rw [pieceAt?, operation?, Option.map_eq_some_iff]
  simp

/-- What stands in a place is there for this place. -/
theorem slot_of_pieceAt? (h : document.pieceAt? slot = some piece) : piece.slot = slot := by
  cases slot with
  | component place name =>
    obtain ⟨value, _, rfl⟩ := Option.map_eq_some_iff.mp h
    rfl
  | operation path key =>
    obtain ⟨value, _, rfl⟩ := Option.map_eq_some_iff.mp h
    rfl

theorem pieceAt?_write_self (h : piece.write document = .ok next) :
    next.pieceAt? piece.slot = some piece := by
  cases piece with
  | component entry =>
    rw [Piece.write] at h
    split at h
    · rename_i components ha
      cases h
      refine pieceAt?_component.mpr ?_
      simp [Registry.get?_add ha]
    · cases h
  | operation path key value =>
    cases h
    simp [pieceAt?, Piece.slot, Entries.get?_insert]

theorem pieceAt?_write_of_ne (h : piece.write document = .ok next) (hs : piece.slot ≠ slot) :
    next.pieceAt? slot = document.pieceAt? slot := by
  cases piece with
  | component entry =>
    rw [Piece.write] at h
    split at h
    · rename_i components ha
      cases h
      cases slot with
      | component place name =>
        have hne : ¬(entry.place = place ∧ entry.name = name) :=
          fun he => hs (by rw [Piece.slot, he.1, he.2])
        simp [pieceAt?, Registry.get?_add ha, hne]
      | operation path key => rfl
    · cases h
  | operation path key value =>
    cases h
    cases slot with
    | component place name => rfl
    | operation other name =>
      by_cases hp : path = other
      · subst hp
        have hkey : key ≠ name := fun he => hs (by rw [Piece.slot, he])
        cases hg : document.paths.get? path <;>
          simp [pieceAt?, Entries.get?_insert, Entries.get?, hkey, hg]
      · simp [pieceAt?, Entries.get?_insert, hp]

/-- Writing pieces into other places leaves a place alone, even when one of them is refused. -/
theorem pieceAt?_writeAll_of_ne (h : ∀ piece ∈ list, piece.slot ≠ slot) (document : Document) :
    (writeAll list document).2.pieceAt? slot = document.pieceAt? slot := by
  induction list generalizing document with
  | nil => rfl
  | cons piece rest ih =>
    rw [writeAll]
    cases hw : piece.write document with
    | error fault => rfl
    | ok next =>
      have hrest := ih (fun other hm => h other (List.mem_cons_of_mem _ hm)) next
      exact hrest.trans (pieceAt?_write_of_ne hw (h piece List.mem_cons_self))

theorem get?_writeAll_of_ne {place : Section} {name : String}
    (h : ∀ piece ∈ list, piece.slot ≠ .component place name) (document : Document) :
    (writeAll list document).2.components.get? place name =
      document.components.get? place name :=
  Option.map_injective (fun _ _ he => by cases he; rfl) (pieceAt?_writeAll_of_ne h document)

/-- The last piece that is written into a place stays there. -/
theorem pieceAt?_writeAll_last {before rest : List Piece}
    (h : writeAll (before ++ piece :: rest) document = (.ok (), after))
    (hr : ∀ later ∈ rest, later.slot ≠ piece.slot) : after.pieceAt? piece.slot = some piece := by
  rw [Piece.writeAll_append] at h
  rcases hb : writeAll before document with ⟨result, middle⟩
  rw [hb] at h
  cases result with
  | error fault => cases h
  | ok =>
    simp only [writeAll] at h
    cases hw : piece.write middle with
    | error fault =>
      rw [hw] at h
      cases h
    | ok next =>
      have hkept := pieceAt?_writeAll_of_ne hr next
      simp only [hw] at h
      rw [h, pieceAt?_write_self hw] at hkept
      exact hkept

/-- After a list of pieces that has one for this place, one of them is in it. -/
theorem exists_pieceAt?_writeAll (h : writeAll list document = (.ok (), after))
    (hm : ∃ piece ∈ list, piece.slot = slot) :
    ∃ piece ∈ list, after.pieceAt? slot = some piece := by
  obtain ⟨before, piece, rest, rfl, rfl, hr⟩ := exists_last hm
  exact ⟨piece, by simp, pieceAt?_writeAll_last h hr⟩

theorem write_overwrite (hp : document.components.policy = .overwrite) (piece : Piece) :
    ∃ next, piece.write document = .ok next ∧ next.components.policy = .overwrite := by
  cases piece with
  | operation path key value => exact ⟨_, rfl, hp⟩
  | component entry =>
    rw [Piece.write]
    cases ha : document.components.add entry.place entry.name entry.value with
    | ok components => exact ⟨_, rfl, (Registry.policy_add ha).trans hp⟩
    | error duplicate =>
      rw [(Registry.add_error ha).1] at hp
      cases hp

/-- Under the overwriting policy every list of pieces is written as a whole. -/
theorem writeAll_overwrite (hp : document.components.policy = .overwrite) (list : List Piece) :
    ∃ after, writeAll list document = (.ok (), after) ∧
      after.components.policy = .overwrite := by
  induction list generalizing document with
  | nil => exact ⟨document, rfl, hp⟩
  | cons piece rest ih =>
    obtain ⟨next, hw, hnext⟩ := write_overwrite hp piece
    obtain ⟨after, ha, hafter⟩ := ih hnext
    exact ⟨after, by rw [writeAll, hw]; exact ha, hafter⟩

end Document

end RouteDoc
