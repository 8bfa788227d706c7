import RouteDoc.Proofs.Component.Home
import RouteDoc.Proofs.Document.Call
import RouteDoc.Proofs.Document.Commuting

namespace RouteDoc

open Component
open Operation (Route Method)

namespace Operation.Route

/-- The names of the route's operations. -/
def operationNames (route : Route) : List String :=
  route.methods.map fun (name, _) => operationName route.path name

/-- No method has a dot in lower case. -/
def Undotted (route : Route) : Prop :=
  ∀ entry ∈ route.methods, '.' ∉ (Text.lower entry.1).toList

instance (route : Route) : Decidable route.Undotted :=
  inferInstanceAs (Decidable (∀ entry ∈ route.methods, '.' ∉ (Text.lower entry.1).toList))

end Operation.Route

namespace Document

open Piece (Agree Slot writeAll)

/-- A piece of an operation stands under the operation's name, or is the operation. -/
theorem slot_methodPieces {path : String} {entry : String × Method} {piece : Piece}
    (h : piece ∈ methodPieces path entry) :
    (∃ place name, piece.slot = .component place name ∧
      Under (operationName path entry.1) name) ∨
    piece.slot = .operation path (Text.lower entry.1) := by
  rcases List.mem_append.mp h with h | h
  · obtain ⟨registration, hm, rfl⟩ := List.mem_map.mp h
    exact Or.inl ⟨_, _, rfl, under_registrations registration hm⟩
  · rw [List.mem_singleton.mp h]
    exact Or.inr rfl

/-- Operations with different names have no place in common. -/
theorem slot_ne_of_operationName_ne {path next : String} {entry other : String × Method}
    (he : '.' ∉ (Text.lower entry.1).toList) (ho : '.' ∉ (Text.lower other.1).toList)
    (hne : operationName path entry.1 ≠ operationName next other.1) :
    ∀ piece ∈ methodPieces path entry, ∀ second ∈ methodPieces next other,
      piece.slot ≠ second.slot := by
  intro piece hp second hs heq
  rcases slot_methodPieces hp with ⟨place, name, hslot, hunder⟩ | hslot
  · rcases slot_methodPieces hs with ⟨_, _, hother, hbelow⟩ | hother
    · rw [hslot, hother] at heq
      cases heq
      exact hne (operationName_eq_of_under he ho hunder hbelow)
    · rw [hslot, hother] at heq
      cases heq
  · rcases slot_methodPieces hs with ⟨_, _, hother, _⟩ | hother
    · rw [hslot, hother] at heq
      cases heq
    · rw [hslot, hother, Slot.operation.injEq] at heq
      exact hne (by rw [operationName, operationName, heq.1, heq.2])

theorem slot_ne_of_disjoint {route other : Route} (hr : route.Undotted) (ho : other.Undotted)
    (hd : ∀ name ∈ route.operationNames, ∀ new ∈ other.operationNames, name ≠ new) :
    ∀ piece ∈ routePieces route, ∀ second ∈ routePieces other, piece.slot ≠ second.slot := by
  intro piece hp second hs
  obtain ⟨entry, he, hp⟩ := List.mem_flatMap.mp hp
  obtain ⟨last, hl, hs⟩ := List.mem_flatMap.mp hs
  refine slot_ne_of_operationName_ne (hr entry he) (ho last hl) (fun heq => ?_) piece hp second hs
  exact hd _ (List.mem_map_of_mem he) _ (List.mem_map_of_mem hl) heq

/-- Permuted routes are written with the same outcome, as long as the names of all their operations
are distinct. -/
theorem agree_of_perm {routes others : List Route} (hp : routes.Perm others)
    (hdots : ∀ route ∈ routes, route.Undotted)
    (hnames : (routes.flatMap Route.operationNames).Nodup) (document : Document) :
    Agree (writeAll (routes.flatMap routePieces) document)
      (writeAll (others.flatMap routePieces) document) := by
  induction hp generalizing document with
  | nil => exact .refl [] document
  | cons route _ ih =>
    rw [List.flatMap_cons] at hnames
    obtain ⟨_, hrest, _⟩ := List.nodup_append.mp hnames
    exact .prepend (routePieces route)
      (ih (fun other ho => hdots other (List.mem_cons_of_mem _ ho)) hrest)
  | swap first second rest =>
    simp only [List.flatMap_cons, ← List.append_assoc] at hnames ⊢
    obtain ⟨_, _, hdisjoint⟩ := List.nodup_append.mp (List.nodup_append.mp hnames).1
    refine .append (.exchange (slot_ne_of_disjoint ?_ ?_ hdisjoint))
    · exact hdots second List.mem_cons_self
    · exact hdots first (List.mem_cons_of_mem _ List.mem_cons_self)
  | trans hfirst _ ihfirst ihsecond =>
    have hmiddle := (hfirst.flatMap_right Route.operationNames).nodup_iff.mp hnames
    exact (ihfirst hdots hnames document).trans
      (ihsecond (fun route hr => hdots route (hfirst.mem_iff.mpr hr)) hmiddle document)

/-- Routes without dots in their methods and with distinct operation names can be added to any
document in any order: all orders succeed or none does, and those that succeed lead to the same
document up to the order of keys. -/
theorem addRoutes_perm {routes others : List Route} (hp : routes.Perm others)
    (hdots : ∀ route ∈ routes, route.Undotted)
    (hnames : (routes.flatMap Route.operationNames).Nodup) (document : Document) :
    (((addRoutes routes).run.run document).1 = .ok () ↔
      ((addRoutes others).run.run document).1 = .ok ()) ∧
    (((addRoutes routes).run.run document).1 = .ok () →
      Json.Alike ((addRoutes routes).run.run document).2.toJson
        ((addRoutes others).run.run document).2.toJson) := by
  have hagree := agree_of_perm hp hdots hnames document
  rw [run_addRoutes, run_addRoutes]
  cases hf : writeAll (routes.flatMap routePieces) document
  cases hs : writeAll (others.flatMap routePieces) document
  rw [hf, hs] at hagree
  cases hagree with
  | ok h => exact ⟨Iff.rfl, fun _ => h.toJson⟩
  | error => exact ⟨⟨nofun, nofun⟩, nofun⟩

def bodyWith (property : String) : Json := .object [("properties", .object [("body",
  .object [("properties", .object [(property, .object [("type", .string "object")])])])])]

def ordersRoute : Route :=
  { path := "/orders", methods := [("POST", { schema := bodyWith "item" }), ("get", {})] }

/-- A route to the same operations of another path. -/
def cartsRoute : Route :=
  { path := "/carts/", methods := [("Post", { schema := bodyWith "item" })] }

theorem addRoutes_perm_orders : ∃ first,
    start Template.base "staging" "shop" {} .fail = .ok first ∧
      Json.Alike ((addRoutes [ordersRoute, cartsRoute]).run.run first).2.toJson
        ((addRoutes [cartsRoute, ordersRoute]).run.run first).2.toJson := by
  have hdots : ∀ route ∈ [ordersRoute, cartsRoute], route.Undotted := by
    decide +kernel
  have hnames : ([ordersRoute, cartsRoute].flatMap Route.operationNames).Nodup := by
    decide +kernel
  exact ⟨_, rfl, (addRoutes_perm (.swap _ _ _) hdots hnames _).2 rfl⟩

end Document

end RouteDoc
