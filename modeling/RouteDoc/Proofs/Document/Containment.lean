import RouteDoc.Proofs.Document.Definitions

namespace RouteDoc

open Component
open Operation (Route Method)

namespace Component

/-- The entries that registrations bring to a section, in their order. -/
def entriesIn (place : Section) (list : List Registration) : Entries Json :=
  (list.filter fun entry => entry.place = place).map fun entry => (entry.name, entry.value)

theorem entriesIn_append (place : Section) (first second : List Registration) :
    entriesIn place (first ++ second) = entriesIn place first ++ entriesIn place second := by
  simp [entriesIn]

namespace Registry

/-- The registry with the entries of some registrations behind its own. -/
def extended (registry : Registry) (list : List Registration) : Registry :=
  { registry with
    schemas := registry.schemas ++ entriesIn .schemas list
    responses := registry.responses ++ entriesIn .responses list }

variable {registry next after : Registry} {entry : Registration} {list : List Registration}

theorem extended_nil (registry : Registry) : registry.extended [] = registry := by
  simp [extended, entriesIn]

theorem extended_append (registry : Registry) (first second : List Registration) :
    registry.extended (first ++ second) = (registry.extended first).extended second := by
  simp [extended, entriesIn_append]

/-- An entry of a new name is put behind the others of its section. -/
theorem put_of_free (h : registry.get? entry.place entry.name = none) :
    registry.put entry.place entry.name entry.value = registry.extended [entry] := by
  obtain ⟨place, name, value⟩ := entry
  have hinsert : (registry.entries place).insert name value =
      registry.entries place ++ [(name, value)] := by
    apply Entries.insert_of_not_mem
    exact Entries.get?_eq_none_iff.mp h
  cases place <;> simp only [entries] at hinsert <;> simp [put, extended, entriesIn, hinsert]

theorem extended_of_add (hp : registry.policy = .fail)
    (h : registry.add entry.place entry.name entry.value = .ok next) :
    next = registry.extended [entry] := by
  have hfree := (add_ok h).1 hp
  rw [add, hfree] at h
  cases h
  exact put_of_free hfree

/-- Under the failing policy the added entries stand behind those the registry had. -/
theorem extended_of_addAll (hp : registry.policy = .fail)
    (h : addAll list registry = (.ok (), after)) : after = registry.extended list := by
  induction list generalizing registry with
  | nil =>
    cases h
    exact (extended_nil after).symm
  | cons entry rest ih =>
    obtain ⟨next, hn, hr⟩ := addAll_cons_ok h
    have hnext := extended_of_add hp hn
    rw [ih ((policy_add hn).trans hp) hr, hnext, ← extended_append, List.singleton_append]

end Registry

end Component

/-- The route with its first methods only. -/
def Operation.Route.upTo (route : Route) (count : Nat) : Route :=
  { route with methods := route.methods.take count }

namespace Piece

/-- Writing the pieces of several elements fails at one of them, when those of the elements before
it are all written. -/
theorem writeAll_flatMap_error {α : Type} {pieces : α → List Piece} {list : List α}
    {document after : Document} {fault : Fault}
    (h : writeAll (list.flatMap pieces) document = (.error fault, after)) :
    ∃ k element middle, list[k]? = some element ∧
      writeAll ((list.take k).flatMap pieces) document = (.ok (), middle) ∧
      writeAll (pieces element) middle = (.error fault, after) := by
  induction list generalizing document with
  | nil => cases h
  | cons first rest ih =>
    rw [List.flatMap_cons, writeAll_append] at h
    rcases hfirst : writeAll (pieces first) document with ⟨result, next⟩
    rw [hfirst] at h
    cases result with
    | error cause =>
      refine ⟨0, first, document, rfl, rfl, ?_⟩
      rw [hfirst]
      exact h
    | ok =>
      obtain ⟨k, element, middle, hk, hbefore, hat⟩ := ih h
      refine ⟨k + 1, element, middle, hk, ?_, hat⟩
      rw [List.take_succ_cons, List.flatMap_cons, writeAll_append, hfirst]
      exact hbefore

end Piece

namespace Document

open Piece (writeAll)

variable {route : Route} {document middle after : Document} {fault : Fault} {k : Nat}
  {entry : String × Method}

/-- The methods of a route can be added in two parts. -/
theorem run_addRoute_append {first second : Entries Method} (h : route.methods = first ++ second)
    (document : Document) : (addRoute route).run.run document =
      match (addRoute { route with methods := first }).run.run document with
      | (.ok (), middle) => (addRoute { route with methods := second }).run.run middle
      | (.error fault, middle) => (.error fault, middle) := by
  rw [run_addRoute, routePieces, h, List.flatMap_append, Piece.writeAll_append, run_addRoute,
    routePieces]
  rcases writeAll (first.flatMap (methodPieces route.path)) document with ⟨result, middle⟩
  cases result with
  | ok => exact (run_addRoute { route with methods := second } middle).symm
  | error fault => rfl

/-- A method is added after those before it. -/
theorem run_addRoute_upTo_succ (hk : route.methods[k]? = some entry) (document : Document) :
    (addRoute (route.upTo (k + 1))).run.run document =
      match (addRoute (route.upTo k)).run.run document with
      | (.ok (), middle) => writeAll (methodPieces route.path entry) middle
      | (.error fault, middle) => (.error fault, middle) := by
  have hmethods : (route.upTo (k + 1)).methods = (route.upTo k).methods ++ [entry] := by
    simp [Route.upTo, List.take_add_one, hk]
  have hone : ∀ middle, (addRoute { route with methods := [entry] }).run.run middle =
      writeAll (methodPieces route.path entry) middle := by
    intro middle
    rw [run_addRoute, routePieces, List.flatMap_singleton]
  simp only [← hone]
  exact run_addRoute_append hmethods document

/-- Under the failing policy a method is refused for a name that is taken, and what it registered
before this name stays behind the other components. -/
theorem writeAll_methodPieces_error {path : String} (hp : document.components.policy = .fail)
    (h : writeAll (methodPieces path entry) document = (.error fault, after)) :
    ∃ before refused rest, registrations path entry.1 entry.2 = before ++ refused :: rest ∧
      fault = .duplicate ⟨refused.place, refused.name⟩ ∧
      after = { document with components := document.components.extended before } := by
  rw [methodPieces, Piece.writeAll_append, Piece.writeAll_components] at h
  rcases Registry.addAll_cases (registrations path entry.1 entry.2) document.components with
    ⟨components, ha⟩ | ⟨before, refused, rest, components, hsplit, hbefore, _, ha⟩
  · rw [ha] at h
    cases h
  · rw [ha] at h
    cases h
    refine ⟨before, refused, rest, hsplit, rfl, ?_⟩
    rw [Registry.extended_of_addAll hp hbefore]

/-- If a route is refused under the failing policy, then at one of its methods: the paths are those
after adding the route with the methods before it only, and so are the components, except that some
of those that this method registers stand behind them, all under the name of its operation. Any
route whose names are fresh is still added afterwards. -/
theorem addRoute_contained (hpolicy : document.components.policy = .fail)
    (hrun : (addRoute route).run.run document = (.error fault, after)) :
    ∃ k name method middle, route.methods[k]? = some (name, method) ∧
      (addRoute (route.upTo k)).run.run document = (.ok (), middle) ∧
      (addRoute (route.upTo (k + 1))).run.run document = (.error fault, after) ∧
      after.paths = middle.paths ∧
      (∃ before refused rest, registrations route.path name method = before ++ refused :: rest ∧
        fault = .duplicate ⟨refused.place, refused.name⟩ ∧
        after.components = middle.components.extended before ∧
        ∀ added ∈ before, Under (operationName route.path name) added.name) ∧
      SameFrame document after ∧
      ∀ next : Route, after.components.Fresh (routeKeys [next]) →
        ∃ later, (addRoute next).run.run after = (.ok (), later) := by
  rw [run_addRoute, routePieces] at hrun
  have hframe := sameFrame_writeAll (route.methods.flatMap (methodPieces route.path)) document
  rw [hrun] at hframe
  obtain ⟨k, ⟨name, method⟩, middle, hk, hbefore, hat⟩ := Piece.writeAll_flatMap_error hrun
  have hmiddle : (addRoute (route.upTo k)).run.run document = (.ok (), middle) := by
    rw [run_addRoute]
    exact hbefore
  have hstrict : middle.components.policy = .fail := by
    have hgrows := grows_writeAll ((route.methods.take k).flatMap (methodPieces route.path)) document
    rw [hbefore] at hgrows
    exact hgrows.policy.trans hpolicy
  obtain ⟨before, refused, rest, hsplit, hfault, hafter⟩ := writeAll_methodPieces_error hstrict hat
  refine ⟨k, name, method, middle, hk, hmiddle, ?_, ?_, ?_, hframe, ?_⟩
  · rw [run_addRoute_upTo_succ hk, hmiddle]
    exact hat
  · rw [hafter]
  · refine ⟨before, refused, rest, hsplit, hfault, ?_, ?_⟩
    · rw [hafter]
    · intro added hm
      apply under_registrations
      rw [hsplit]
      exact List.mem_append_left _ hm
  · intro next hfresh
    obtain ⟨later, hlater⟩ := addRoutes_of_fresh hfresh
    rw [run_addRoutes_singleton] at hlater
    exact ⟨later, hlater⟩

/-- The second method registers a tag before it asks for the name of the first one's body. -/
def draftsRoute : Route :=
  { path := "/drafts"
    methods := [("PUT", { schema := bodyWith "note" }), ("put", { schema := bodyWith "tag" })] }

theorem addRoute_contained_drafts : ∃ first fault after k middle later,
    start Template.base "default" "desk" {} .fail = .ok first ∧
    (addRoute draftsRoute).run.run first = (.error fault, after) ∧
    (addRoute (draftsRoute.upTo k)).run.run first = (.ok (), middle) ∧
    after.paths = middle.paths ∧ after.components.schemas.keys =
      ["drafts.put.body.note", "drafts.put.body", "drafts.put.body.tag"] ∧
    (addRoute (notesRoute "put")).run.run after = (.ok (), later) := by
  obtain ⟨first, hstart⟩ : ∃ first,
      start Template.base "default" "desk" {} .fail = .ok first := ⟨_, rfl⟩
  have hpolicy := (policy_servers_start hstart).1
  obtain ⟨fault, after, hrun⟩ : ∃ fault after,
      (addRoute draftsRoute).run.run first = (.error fault, after) := by
    cases hstart
    exact ⟨_, _, rfl⟩
  obtain ⟨k, _, _, middle, _, hmiddle, _, hpaths, _, _, hnext⟩ := addRoute_contained hpolicy hrun
  have hkeys : after.components.schemas.keys =
      ["drafts.put.body.note", "drafts.put.body", "drafts.put.body.tag"] := by
    cases hstart
    cases hrun
    decide +kernel
  have hfresh : after.components.Fresh (routeKeys [notesRoute "put"]) := by
    cases hstart
    cases hrun
    unfold Registry.Fresh
    decide +kernel
  obtain ⟨later, hlater⟩ := hnext (notesRoute "put") hfresh
  exact ⟨first, fault, after, k, middle, later, hstart, hrun, hmiddle, hpaths, hkeys, hlater⟩

end Document

end RouteDoc
