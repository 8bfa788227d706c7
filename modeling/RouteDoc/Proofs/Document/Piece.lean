import RouteDoc.Proofs.Component.Addition
import RouteDoc.Proofs.Document.Building

namespace RouteDoc

open Component
open Operation (Route Method)

/-- A component, or an operation in the item of its path. -/
inductive Piece where
  | component (entry : Registration)
  | operation (path key : String) (operation : Operation)

namespace Piece

/-- The pieces of a section of the components. -/
def ofEntries (place : Section) (entries : Entries Json) : List Piece :=
  entries.map fun (name, value) => .component ⟨place, name, value⟩

def ofItem (path : String) (item : PathItem) : List Piece :=
  item.map fun (key, value) => .operation path key value

def ofPaths (paths : Entries PathItem) : List Piece :=
  paths.flatMap fun (path, item) => ofItem path item

/-- The components first, then the operations. -/
def all (components : Registry) (paths : Entries PathItem) : List Piece :=
  ofEntries .schemas components.schemas ++ ofEntries .responses components.responses ++
    ofPaths paths

theorem mem_all {components : Registry} {paths : Entries PathItem} {piece : Piece} :
    piece ∈ all components paths ↔
      (∃ place, piece ∈ ofEntries place (components.entries place)) ∨ piece ∈ ofPaths paths := by
  simp only [all, List.mem_append]
  refine or_congr_left ⟨fun h => ?_, fun ⟨place, h⟩ => ?_⟩
  · exact h.elim (fun h => ⟨.schemas, h⟩) (fun h => ⟨.responses, h⟩)
  · cases place
    · exact Or.inl h
    · exact Or.inr h

end Piece

namespace Document

def Template.pieces (template : Template) : List Piece :=
  Piece.all template.components template.paths

def pieces (document : Document) : List Piece := Piece.all document.components document.paths

end Document

namespace Piece

open Document

/-- Writes a piece into a document; a component may be refused. -/
def write (document : Document) : Piece → Except Fault Document
  | component entry =>
    match document.components.add entry.place entry.name entry.value with
    | .ok components => .ok { document with components }
    | .error duplicate => .error (.duplicate duplicate)
  | operation path key value =>
    let item := (document.paths.get? path).getD []
    .ok { document with paths := document.paths.insert path (item.insert key value) }

/-- Writes the pieces in order and stops at the first that is refused. -/
def writeAll : List Piece → Document → Except Fault Unit × Document
  | [], document => (.ok (), document)
  | piece :: rest, document =>
    match piece.write document with
    | .ok next => writeAll rest next
    | .error fault => (.error fault, document)

/-- The pieces that are written, those before the first that is refused. -/
def accepted : List Piece → Document → List Piece
  | [], _ => []
  | piece :: rest, document =>
    match piece.write document with
    | .ok next => piece :: accepted rest next
    | .error _ => []

theorem writeAll_append (first second : List Piece) (document : Document) :
    writeAll (first ++ second) document = match writeAll first document with
      | (.ok (), after) => writeAll second after
      | (.error fault, after) => (.error fault, after) := by
  induction first generalizing document with
  | nil => rfl
  | cons piece rest ih =>
    rw [List.cons_append, writeAll, writeAll]
    cases piece.write document with
    | ok next => exact ih next
    | error fault => rfl

/-- Writing components is adding them. -/
theorem writeAll_components (list : List Registration) (document : Document) :
    writeAll (list.map component) document = match Registry.addAll list document.components with
      | (.ok (), components) => (.ok (), { document with components })
      | (.error duplicate, components) =>
        (.error (.duplicate duplicate), { document with components }) := by
  induction list generalizing document with
  | nil => rfl
  | cons entry rest ih =>
    rw [List.map_cons, writeAll, write, Registry.addAll]
    cases document.components.add entry.place entry.name entry.value with
    | ok components => exact ih { document with components }
    | error duplicate => rfl

/-- The name that the piece takes among the components. -/
def keys : Piece → List (Section × String)
  | component entry => [entry.key]
  | operation _ _ _ => []

section Written

variable {piece : Piece} {document next : Document}

/-- Names are never lost, and a component that is written has its name. -/
theorem get?_isSome_write (h : piece.write document = .ok next) {place : Section} {name : String}
    (hk : (document.components.get? place name).isSome ∨ (place, name) ∈ piece.keys) :
    (next.components.get? place name).isSome := by
  cases piece with
  | component entry =>
    rw [write] at h
    split at h
    · rename_i components ha
      cases h
      rw [Registry.get?_add ha]
      split
      · rfl
      · rename_i hne
        refine hk.resolve_right fun hm => hne ?_
        rw [keys, List.mem_singleton, Registration.key, Prod.mk.injEq] at hm
        exact ⟨hm.1.symm, hm.2.symm⟩
    · cases h
  | operation path key value =>
    cases h
    exact hk.resolve_right (List.not_mem_nil)

theorem mem_ofPaths {paths : Entries PathItem} {path key : String} {value : Operation} :
    operation path key value ∈ ofPaths paths ↔
      ∃ item, (path, item) ∈ paths ∧ (key, value) ∈ item := by
  simp only [ofPaths, ofItem, List.mem_flatMap, List.mem_map]
  constructor
  · rintro ⟨⟨path, item⟩, hi, ⟨key, value⟩, hv, he⟩
    cases he
    exact ⟨item, hi, hv⟩
  · rintro ⟨item, hi, hv⟩
    exact ⟨(path, item), hi, (key, value), hv, rfl⟩

/-- An insertion into the item of a path brings no operation but its own. -/
theorem mem_ofPaths_insert {paths : Entries PathItem} {path key : String} {value : Operation}
    {other : Piece} (hm : other ∈ ofPaths
      (paths.insert path (((paths.get? path).getD []).insert key value))) :
    other = operation path key value ∨ other ∈ ofPaths paths := by
  obtain ⟨⟨place, item⟩, hi, hm⟩ := List.mem_flatMap.mp hm
  obtain ⟨⟨found, operation⟩, ho, rfl⟩ := List.mem_map.mp hm
  rcases Entries.mem_insert hi with he | hi
  · cases he
    rcases Entries.mem_insert ho with he | ho
    · cases he
      exact Or.inl rfl
    · cases hg : paths.get? path with
      | none => simp [hg] at ho
      | some item =>
        rw [hg, Option.getD_some] at ho
        exact Or.inr (mem_ofPaths.mpr ⟨item, Entries.mem_of_get? hg, ho⟩)
  · exact Or.inr (mem_ofPaths.mpr ⟨item, hi, ho⟩)

/-- Every piece of the document is the one just written or was there before. -/
theorem mem_pieces_write (h : piece.write document = .ok next) {other : Piece}
    (hm : other ∈ next.pieces) : other = piece ∨ other ∈ document.pieces := by
  rw [pieces, mem_all] at hm ⊢
  cases piece with
  | component entry =>
    rw [write] at h
    split at h
    · rename_i components ha
      cases h
      obtain ⟨_, noted, rfl⟩ := Registry.add_ok ha
      refine hm.elim (fun ⟨place, hm⟩ => ?_) (fun hm => Or.inr (Or.inr hm))
      obtain ⟨named, he, rfl⟩ := List.mem_map.mp hm
      rcases Registry.mem_entries_put he with ⟨rfl, rfl⟩ | he
      · exact Or.inl rfl
      · exact Or.inr (Or.inl ⟨place, List.mem_map.mpr ⟨named, he, rfl⟩⟩)
    · cases h
  | operation path key value =>
    cases h
    rcases hm with hm | hm
    · exact Or.inr (Or.inl hm)
    · exact (mem_ofPaths_insert hm).imp_right Or.inr

end Written

theorem accepted_subset (list : List Piece) (document : Document) :
    accepted list document ⊆ list := by
  induction list generalizing document with
  | nil => exact List.Subset.refl []
  | cons piece rest ih =>
    rw [accepted]
    cases piece.write document with
    | error fault => exact List.nil_subset _
    | ok next => exact List.cons_subset_cons piece (ih next)

/-- The pieces after writing a list are those that were written and the old ones. -/
theorem mem_pieces_writeAll {list : List Piece} {document : Document} {other : Piece}
    (h : other ∈ (writeAll list document).2.pieces) :
    other ∈ accepted list document ∨ other ∈ document.pieces := by
  induction list generalizing document with
  | nil => exact Or.inr h
  | cons piece rest ih =>
    rw [writeAll] at h
    rw [accepted]
    cases hw : piece.write document with
    | error fault =>
      rw [hw] at h
      exact Or.inr h
    | ok next =>
      rw [hw] at h
      rcases ih h with hr | hn
      · exact Or.inl (List.mem_cons_of_mem _ hr)
      · refine (mem_pieces_write hw hn).imp_left fun he => ?_
        rw [he]
        exact List.mem_cons_self

end Piece

namespace Document

/-- What no call changes: everything but the paths and the named schemas and responses. -/
structure SameFrame (old new : Document) : Prop where
  openapi : new.openapi = old.openapi
  info : new.info = old.info
  servers : new.servers = old.servers
  extensions : new.extensions = old.extensions
  extra : new.components.extra = old.components.extra

theorem SameFrame.refl (document : Document) : SameFrame document document :=
  ⟨rfl, rfl, rfl, rfl, rfl⟩

theorem SameFrame.symm {first second : Document} (h : SameFrame first second) :
    SameFrame second first :=
  ⟨h.openapi.symm, h.info.symm, h.servers.symm, h.extensions.symm, h.extra.symm⟩

theorem SameFrame.trans {first second third : Document} (hf : SameFrame first second)
    (hs : SameFrame second third) : SameFrame first third :=
  ⟨hs.openapi.trans hf.openapi, hs.info.trans hf.info, hs.servers.trans hf.servers,
    hs.extensions.trans hf.extensions, hs.extra.trans hf.extra⟩

theorem sameFrame_write {piece : Piece} {document next : Document}
    (h : piece.write document = .ok next) : SameFrame document next := by
  cases piece with
  | component entry =>
    rw [Piece.write] at h
    split at h
    · rename_i components ha
      cases h
      obtain ⟨_, noted, rfl⟩ := Registry.add_ok ha
      exact ⟨rfl, rfl, rfl, rfl, Registry.extra_put ..⟩
    · cases h
  | operation path key value =>
    cases h
    exact ⟨rfl, rfl, rfl, rfl, rfl⟩

theorem sameFrame_writeAll (list : List Piece) (document : Document) :
    SameFrame document (Piece.writeAll list document).2 := by
  induction list generalizing document with
  | nil => exact .refl document
  | cons piece rest ih =>
    rw [Piece.writeAll]
    cases hw : piece.write document with
    | error fault => exact .refl document
    | ok next => exact (sameFrame_write hw).trans (ih next)

end Document

end RouteDoc
