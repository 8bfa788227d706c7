import RouteDoc.Proofs.Component.Inlining
import RouteDoc.Proofs.Document.Grounded
import RouteDoc.Proofs.Document.Lookup
import RouteDoc.Proofs.Document.Order
import RouteDoc.Proofs.Text.Lowercase

namespace RouteDoc

open Component
open Operation (Route Method)

namespace Piece

/-- The piece has the reference that is written for this name. -/
def PointsTo (piece : Piece) (key : Section × String) : Prop :=
  (key.1, reference key.1 key.2) ∈ piece.targets

theorem NamesOneOf.key_mem {known : List (Section × String)} {key : Section × String}
    (h : NamesOneOf known (key.1, reference key.1 key.2)) : key ∈ known := by
  obtain ⟨name, hm, he⟩ := h
  have hsame : reference key.1 key.2 = reference key.1 name := he
  obtain rfl := (String.append_right_inj _).mp hsame
  exact hm

/-- Whatever a grounded list points to is known or stands in the list. -/
theorem Grounded.key_mem {known : List (Section × String)} {list : List Piece} {piece : Piece}
    {key : Section × String} (h : Grounded known list) (hm : piece ∈ list)
    (hp : piece.PointsTo key) : key ∈ known ++ list.flatMap keys := by
  induction list generalizing known with
  | nil => cases hm
  | cons first rest ih =>
    rcases List.mem_cons.mp hm with rfl | hm
    · exact List.mem_append_left _ (h.1 _ hp).key_mem
    · have hkey := ih h.2 hm
      rwa [List.append_assoc] at hkey

end Piece

namespace Document

open Piece (PointsTo writeAll)

/-- The names that the piece leads to, itself or through the components it leads to. The components
that the shared response leads to are the template's own. -/
inductive Reaches (document : Document) (piece : Piece) : Section × String → Prop
  | direct {key : Section × String} : piece.PointsTo key → Reaches document piece key
  | further {key next : Section × String} {value : Json} : Reaches document piece key →
      key ≠ sharedKey → document.components.get? key.1 key.2 = some value →
      (Piece.component ⟨key.1, key.2, value⟩).PointsTo next → Reaches document piece next

/-- The names of the components that a route registers for operations of this name. -/
def registered (route : Route) (home : String) : List (Section × String) :=
  (route.methods.filter fun entry => operationName route.path entry.1 = home).flatMap fun entry =>
    (registrations route.path entry.1 entry.2).map Registration.key

theorem mem_registered {route : Route} {home : String} {key : Section × String} :
    key ∈ registered route home ↔ ∃ entry ∈ route.methods,
      operationName route.path entry.1 = home ∧
        key ∈ (registrations route.path entry.1 entry.2).map Registration.key := by
  simp [registered, List.mem_flatMap, and_assoc]

theorem under_of_mem_registered {route : Route} {home : String} {key : Section × String}
    (h : key ∈ registered route home) : Under home key.2 := by
  obtain ⟨entry, _, rfl, hk⟩ := mem_registered.mp h
  obtain ⟨registration, hm, rfl⟩ := List.mem_map.mp hk
  exact under_registrations registration hm

/-- The shared response has no dot in its name, so it belongs to no operation. -/
theorem not_under_shared (home : String) : ¬Under home sharedKey.2 := by
  rintro ⟨label, he⟩
  have hdot : '.' ∈ (home ++ "." ++ label).toList := by simp
  rw [← he] at hdot
  exact absurd hdot (by decide)

theorem undotted_of_not_mem {route : Route} (h : ∀ entry ∈ route.methods, '.' ∉ entry.1.toList) :
    route.Undotted :=
  fun entry he => Text.dot_not_mem_lower (h entry he)

section Route

variable {route other : Route} {home : String} {first middle : Document}

/-- A component that a route writes under the name of one of its operations is registered for an
operation of this name, and leads to such components only. -/
theorem registered_of_under {path name : String} {piece : Piece} {place : Section} {label : String}
    (hroute : route.Undotted) (hn : '.' ∉ (Text.lower name).toList)
    (hm : piece ∈ routePieces route) (hs : piece.slot = .component place label)
    (hu : Under (operationName path name) label) :
    (place, label) ∈ registered route (operationName path name) ∧
      ∀ next, piece.PointsTo next → next ∈ registered route (operationName path name) := by
  obtain ⟨entry, he, hm⟩ := List.mem_flatMap.mp hm
  rcases List.mem_append.mp hm with hm | hm
  · obtain ⟨registration, hr, rfl⟩ := List.mem_map.mp hm
    cases hs
    have hhome : operationName route.path entry.1 = operationName path name :=
      operationName_eq_of_under (hroute entry he) hn (under_registrations registration hr) hu
    refine ⟨mem_registered.mpr ⟨entry, he, hhome, List.mem_map_of_mem hr⟩, fun next hp => ?_⟩
    have hnext := (grounded_registrations route.path entry.1 entry.2 []).key_mem hm hp
    rw [List.nil_append, Piece.flatMap_keys_component] at hnext
    exact mem_registered.mpr ⟨entry, he, hhome, hnext⟩
  · cases List.mem_singleton.mp hm
    cases hs

/-- After a route is added, the operation of each of its methods is the one built for it, or for
another method of the same name. -/
theorem exists_operation (hrun : writeAll (routePieces route) first = (.ok (), middle))
    {name : String} (hname : name ∈ route.methods.keys) :
    ∃ entry ∈ route.methods, Text.lower entry.1 = Text.lower name ∧
      middle.operation? route.path name = some (builtOperation route.path entry.1 entry.2) := by
  obtain ⟨⟨name, method⟩, hm, rfl⟩ := List.mem_map.mp hname
  have hslot : ∃ piece ∈ routePieces route,
      piece.slot = .operation route.path (Text.lower name) :=
    ⟨_, List.mem_flatMap.mpr ⟨_, hm, List.mem_append_right _ List.mem_cons_self⟩, rfl⟩
  obtain ⟨piece, hp, hat⟩ := exists_pieceAt?_writeAll hrun hslot
  have hplace := slot_of_pieceAt? hat
  obtain ⟨entry, he, hp⟩ := List.mem_flatMap.mp hp
  rcases List.mem_append.mp hp with hp | hp
  · obtain ⟨registration, _, rfl⟩ := List.mem_map.mp hp
    cases hplace
  · rw [List.mem_singleton.mp hp] at hat hplace
    have hlower : Text.lower entry.1 = Text.lower name := by
      rw [Piece.slot, Piece.Slot.operation.injEq] at hplace
      exact hplace.2
    rw [hlower] at hat
    exact ⟨entry, he, hlower, pieceAt?_operation.mp hat⟩

/-- The operation of a method leads to the shared response and to components that its route
registers for operations of its name. -/
theorem reached_of_operation (hroute : route.Undotted)
    (hrun : writeAll (routePieces route) first = (.ok (), middle)) {entry : String × Method}
    (he : entry ∈ route.methods) {label : String} {key : Section × String}
    (h : Reaches middle
      (.operation route.path label (builtOperation route.path entry.1 entry.2)) key) :
    key = sharedKey ∨ key ∈ registered route (operationName route.path entry.1) := by
  induction h with
  | @direct key hp =>
    have hm := (targets_builtOperation hp).key_mem
    refine (List.mem_cons.mp hm).imp_right fun hm => ?_
    exact mem_registered.mpr ⟨entry, he, rfl, hm⟩
  | @further key next value _ hne hget hp ih =>
    have hown := ih.resolve_left hne
    obtain ⟨owner, ho, _, hk⟩ := mem_registered.mp hown
    have hwritten : ∃ piece ∈ routePieces route, piece.slot = .component key.1 key.2 := by
      obtain ⟨registration, hr, rfl⟩ := List.mem_map.mp hk
      exact ⟨_, List.mem_flatMap.mpr ⟨owner, ho, List.mem_append_left _
        (List.mem_map_of_mem hr)⟩, rfl⟩
    obtain ⟨piece, hm, hat⟩ := exists_pieceAt?_writeAll hrun hwritten
    obtain rfl := Option.some.inj (hat.symm.trans (pieceAt?_component.mpr hget))
    exact Or.inr ((registered_of_under hroute (hroute entry he) hm rfl
      (under_of_mem_registered hown)).2 next hp)

/-- A route changes a component under the name of an operation only if it registers it anew for an
operation of this name. -/
theorem get?_of_under (hother : other.Undotted) {path name : String}
    (hn : '.' ∉ (Text.lower name).toList) {key : Section × String}
    (hu : Under (operationName path name) key.2) (document : Document) :
    (writeAll (routePieces other) document).2.components.get? key.1 key.2 =
        document.components.get? key.1 key.2 ∨
      key ∈ registered other (operationName path name) := by
  by_cases hm : ∃ piece ∈ routePieces other, piece.slot = .component key.1 key.2
  · obtain ⟨piece, hm, hs⟩ := hm
    exact Or.inr (registered_of_under hother hn hm hs hu).1
  · exact Or.inl (get?_writeAll_of_ne (fun piece hp he => hm ⟨piece, hp, he⟩) document)

theorem get?_shared (other : Route) (document : Document) :
    (writeAll (routePieces other) document).2.components.get? sharedKey.1 sharedKey.2 =
      document.components.get? sharedKey.1 sharedKey.2 := by
  refine get?_writeAll_of_ne (fun piece hp hs => ?_) document
  obtain ⟨entry, _, hp⟩ := List.mem_flatMap.mp hp
  rcases slot_methodPieces hp with ⟨place, name, hslot, hunder⟩ | hslot
  · rw [hs, Piece.Slot.component.injEq] at hslot
    exact not_under_shared _ (hslot.2 ▸ hunder)
  · cases hs.symm.trans hslot

/-- A route leaves the operations of other paths and methods alone. -/
theorem operation?_of_pairs {path name : String} (hpairs : ∀ entry ∈ other.methods,
      (other.path, Text.lower entry.1) ≠ (path, Text.lower name)) {operation : Operation}
    {document : Document} (h : document.operation? path name = some operation) :
    (writeAll (routePieces other) document).2.operation? path name = some operation := by
  refine pieceAt?_operation.mp ((pieceAt?_writeAll_of_ne (fun piece hp hs => ?_) document).trans
    (pieceAt?_operation.mpr h))
  obtain ⟨entry, he, hp⟩ := List.mem_flatMap.mp hp
  rcases slot_methodPieces hp with ⟨place, label, hslot, _⟩ | hslot
  · cases hs.symm.trans hslot
  · rw [hs, Piece.Slot.operation.injEq] at hslot
    exact hpairs entry he (by rw [hslot.1, hslot.2])

end Route

/-- Under the default policy and without dots in methods, a route leaves the operation of another
path or method as it is, and of the components that this operation leads to it changes only those
that it registers anew for an operation of the same name. -/
theorem addRoute_keeps_reached {first : Document} {route other : Route} {name : String}
    (hpolicy : first.components.policy = .overwrite)
    (hroute : ∀ entry ∈ route.methods, '.' ∉ entry.1.toList)
    (hother : ∀ entry ∈ other.methods, '.' ∉ entry.1.toList)
    (hname : name ∈ route.methods.keys)
    (hpairs : ∀ entry ∈ other.methods,
      (other.path, Text.lower entry.1) ≠ (route.path, Text.lower name)) :
    ∃ middle after operation, (addRoute route).run.run first = (.ok (), middle) ∧
      (addRoute other).run.run middle = (.ok (), after) ∧
      middle.operation? route.path name = some operation ∧
      after.operation? route.path name = some operation ∧
      ∀ key, Reaches middle (.operation route.path (Text.lower name) operation) key →
        after.components.get? key.1 key.2 = middle.components.get? key.1 key.2 ∨
          key ∈ registered other (operationName route.path name) := by
  have hundotted := undotted_of_not_mem hroute
  obtain ⟨middle, hmiddle, hnext⟩ := writeAll_overwrite hpolicy (routePieces route)
  obtain ⟨after, hafter, _⟩ := writeAll_overwrite hnext (routePieces other)
  obtain ⟨entry, he, hlower, hop⟩ := exists_operation hmiddle hname
  have hhome : operationName route.path entry.1 = operationName route.path name := by
    rw [operationName, operationName, hlower]
  refine ⟨middle, after, _, (run_addRoute route first).trans hmiddle,
    (run_addRoute other middle).trans hafter, hop, ?_, fun key hr => ?_⟩
  · have hkept := operation?_of_pairs hpairs hop
    rwa [hafter] at hkept
  · rcases reached_of_operation hundotted hmiddle he hr with rfl | hown
    · have hkept := get?_shared other middle
      rw [hafter] at hkept
      exact Or.inl hkept
    · have hkept := get?_of_under (undotted_of_not_mem hother) (hundotted entry he)
        (under_of_mem_registered hown) middle
      rwa [hafter, hhome] at hkept

theorem addRoute_keeps_reached_orders : ∃ first middle after operation,
    start Template.base "staging" "shop" {} .overwrite = .ok first ∧
    (addRoute ordersRoute).run.run first = (.ok (), middle) ∧
    (addRoute cartsRoute).run.run middle = (.ok (), after) ∧
    after.operation? "/orders" "POST" = some operation ∧
    Reaches middle (.operation "/orders" "post" operation) (.schemas, "orders.post.body.item") ∧
    after.components.get? .schemas "orders.post.body.item" =
      middle.components.get? .schemas "orders.post.body.item" := by
  obtain ⟨first, hstart⟩ : ∃ first,
      start Template.base "staging" "shop" {} .overwrite = .ok first := ⟨_, rfl⟩
  have hpolicy : first.components.policy = .overwrite := by
    cases hstart
    rfl
  have hpairs : ∀ entry ∈ cartsRoute.methods,
      (cartsRoute.path, Text.lower entry.1) ≠ (ordersRoute.path, Text.lower "POST") := by
    decide +kernel
  obtain ⟨middle, after, operation, hm, ha, hop, hkept, hreached⟩ :=
    addRoute_keeps_reached hpolicy (by decide) (by decide) List.mem_cons_self hpairs
  have hreach : Reaches middle (.operation "/orders" "post" operation)
      (.schemas, "orders.post.body.item") := by
    cases hstart
    cases hm
    cases hop
    have hbody : (Piece.operation "/orders" "post" (builtOperation "/orders" "POST"
        { schema := bodyWith "item" })).PointsTo (.schemas, "orders.post.body") :=
      List.mem_append_left _ List.mem_cons_self
    exact .further (.direct hbody) (by decide) rfl List.mem_cons_self
  have hnew : (Section.schemas, "orders.post.body.item") ∉
      registered cartsRoute (operationName ordersRoute.path "POST") := by
    decide +kernel
  exact ⟨first, middle, after, operation, hstart, hm, ha, hkept, hreach,
    (hreached _ hreach).resolve_right hnew⟩

/-- Two paths of one name. -/
def profilesRoute : Route :=
  { path := "/user-profiles", methods := [("POST", { schema := bodyWith "address" })] }

def accountsRoute : Route :=
  { path := "/userprofiles", methods := [("POST", { schema := bodyWith "order" })] }

/-- The paths differ, and neither method has a dot, but the second route changes the body that the
operation of the first leads to. -/
theorem addRoute_changes_reached : profilesRoute.path ≠ accountsRoute.path ∧
    (∀ route ∈ [profilesRoute, accountsRoute], ∀ entry ∈ route.methods, '.' ∉ entry.1.toList) ∧
    ∃ first middle after operation,
      start Template.base "default" "shop" {} .overwrite = .ok first ∧
      (addRoute profilesRoute).run.run first = (.ok (), middle) ∧
      (addRoute accountsRoute).run.run middle = (.ok (), after) ∧
      middle.operation? "/user-profiles" "POST" = some operation ∧
      Reaches middle (.operation "/user-profiles" "post" operation)
        (.schemas, "userprofiles.post.body") ∧
      after.components.get? .schemas "userprofiles.post.body" ≠
        middle.components.get? .schemas "userprofiles.post.body" := by
  refine ⟨by decide, by decide, _, _, _, _, rfl, rfl, rfl, rfl, ?_, fun hsame => ?_⟩
  · exact .direct (List.mem_append_left _ List.mem_cons_self)
  · have hkeys := congrArg (Option.map fun body => (body.entriesAt "properties").keys) hsame
    exact absurd hkeys (by decide +kernel)

end Document

end RouteDoc
