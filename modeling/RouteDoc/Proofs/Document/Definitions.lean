import RouteDoc.Proofs.Document.Growth
import RouteDoc.Proofs.Document.References
import RouteDoc.Proofs.Document.Refusal
import RouteDoc.Proofs.Document.Separation
import RouteDoc.Proofs.Text.Ascii

namespace RouteDoc

open Component Entries
open Operation (Route Method)

namespace Document

open Piece (writeAll)

/-- The operations of a path, none if the path is unknown. -/
def item (document : Document) (path : String) : PathItem := (document.paths.get? path).getD []

theorem get?_item (document : Document) (path key : String) :
    (document.item path).get? key = (document.paths.get? path).bind (Entries.get? key) := by
  unfold item
  cases document.paths.get? path <;> rfl

/-- The methods that routes define, each with the path of its route. -/
def definitions (routes : List Route) : List (String × String × Method) :=
  routes.flatMap fun route => route.methods.map fun entry => (route.path, entry)

end Document

namespace Piece

section Step

variable {piece : Piece} {document next : Document}

end Step

end Piece

namespace Document

open Piece (writeAll)

theorem routePieces_eq (routes : List Route) : routes.flatMap routePieces =
    (definitions routes).flatMap fun (path, entry) => methodPieces path entry := by
  simp only [definitions, List.flatMap_assoc, List.flatMap_map]
  rfl

/-- The definition is of this path, and of this method up to case. -/
def Defines (path key : String) (definition : String × String × Method) : Prop :=
  definition.1 = path ∧ Text.lower definition.2.1 = key

/-- A definition that no later one of the same path and lower-case method follows. -/
def IsLast (routes : List Route) (path : String) (entry : String × Method) : Prop :=
  ∃ before rest, definitions routes = before ++ (path, entry) :: rest ∧
    ∀ later ∈ rest, ¬Defines path (Text.lower entry.1) later

/-- No piece of a list of definitions stands where none of them defines an operation. -/
theorem slot_ne_of_not_defines {list : List (String × String × Method)} {path key : String}
    (h : ∀ definition ∈ list, ¬Defines path key definition) :
    ∀ piece ∈ list.flatMap fun (path, entry) => methodPieces path entry,
      piece.slot ≠ .operation path key := by
  intro piece hm hs
  obtain ⟨⟨other, entry⟩, hd, hp⟩ := List.mem_flatMap.mp hm
  rcases slot_methodPieces hp with ⟨place, name, hslot, _⟩ | hslot
  · cases hs.symm.trans hslot
  · cases hs.symm.trans hslot
    exact h _ hd ⟨rfl, rfl⟩

section Run

variable {routes : List Route} {document after : Document}

/-- The operation of a method is the one that its last definition builds. -/
theorem operation?_of_isLast (hrun : (addRoutes routes).run.run document = (.ok (), after))
    {path name : String} {entry : String × Method} (hlast : IsLast routes path entry)
    (hname : Text.lower entry.1 = Text.lower name) :
    after.operation? path name = some (builtOperation path entry.1 entry.2) := by
  obtain ⟨before, rest, hsplit, hrest⟩ := hlast
  rw [run_addRoutes, routePieces_eq, hsplit, List.flatMap_append, List.flatMap_cons] at hrun
  simp only [methodPieces, List.append_assoc, List.singleton_append] at hrun
  rw [← List.append_assoc] at hrun
  have hat := pieceAt?_writeAll_last hrun (slot_ne_of_not_defines hrest)
  simp only [Piece.slot, hname] at hat
  exact pieceAt?_operation.mp hat

end Run

section Alone

variable {environment module path : String} {metadata : Metadata} {policy : Policy}
  {fresh alone : Document} {entry : String × Method}

theorem under_methodKeys :
    ∀ key ∈ methodKeys path entry, Under (operationName path entry.1) key.2 := by
  intro key hm
  rw [← keys_registrations] at hm
  obtain ⟨registration, hr, rfl⟩ := List.mem_map.mp hm
  exact under_registrations registration hr

theorem run_addRoutes_singleton (route : Route) (document : Document) :
    (addRoutes [route]).run.run document = (addRoute route).run.run document := by
  rw [run_addRoutes, List.flatMap_singleton, run_addRoute]

end Alone

end Document

end RouteDoc
