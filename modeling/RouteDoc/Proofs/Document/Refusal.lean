import RouteDoc.Proofs.Component.Traversal
import RouteDoc.Proofs.Document.Call

namespace RouteDoc

open Component
open Operation (Route Method)

namespace Component.Registry

/-- The names differ from each other, and none of them is taken. -/
def Fresh (registry : Registry) (keys : List (Section × String)) : Prop :=
  keys.Nodup ∧ ∀ key ∈ keys, registry.get? key.1 key.2 = none

variable {registry after : Registry} {list before rest : List Registration}
  {entry : Registration}

/-- Names that were added before are taken like those that the registry had. -/
theorem taken_of_addAll (h : addAll before registry = (.ok (), after))
    (ht : (after.get? entry.place entry.name).isSome) :
    entry.key ∈ before.map Registration.key ∨
      (registry.get? entry.place entry.name).isSome := by
  by_cases hm : entry.key ∈ before.map Registration.key
  · exact Or.inl hm
  · right
    have hnone : latest entry.place entry.name before = none := latest_eq_none hm
    rw [get?_addAll h, hnone] at ht
    exact ht

theorem fresh_of_addAll (hp : registry.policy = .fail)
    (h : addAll list registry = (.ok (), after)) : registry.Fresh (list.map Registration.key) := by
  obtain ⟨hd, hnew⟩ := nodup_of_addAll hp h
  refine ⟨hd, ?_⟩
  intro key hm
  obtain ⟨entry, he, rfl⟩ := List.mem_map.mp hm
  exact hnew entry he

theorem not_fresh_of_taken
    (ht : entry.key ∈ before.map Registration.key ∨
      (registry.get? entry.place entry.name).isSome) :
    ¬registry.Fresh ((before ++ entry :: rest).map Registration.key) := by
  rintro ⟨hd, hnew⟩
  rw [List.map_append, List.map_cons] at hd
  rcases ht with hm | ht
  · exact (List.nodup_append.mp hd).2.2 _ hm _ List.mem_cons_self rfl
  · have hfree : registry.get? entry.place entry.name = none := by
      apply hnew entry.key
      simp
    rw [hfree] at ht
    cases ht

/-- Under the failing policy all entries are added if their names are fresh. If not, the error names
the first that is taken, by an earlier entry or in the registry, and its name stays. -/
theorem addAll_fail (hp : registry.policy = .fail) (list : List Registration) :
    (registry.Fresh (list.map Registration.key) ∧
      ∃ after, addAll list registry = (.ok (), after)) ∨
    ¬registry.Fresh (list.map Registration.key) ∧
      ∃ before entry rest after, list = before ++ entry :: rest ∧
        registry.Fresh (before.map Registration.key) ∧
        (entry.key ∈ before.map Registration.key ∨
          (registry.get? entry.place entry.name).isSome) ∧
        addAll list registry = (.error ⟨entry.place, entry.name⟩, after) ∧
        (after.get? entry.place entry.name).isSome := by
  rcases addAll_cases list registry with ⟨after, ha⟩ | ⟨before, entry, rest, middle, hl, hb, he, ha⟩
  · exact Or.inl ⟨fresh_of_addAll hp ha, after, ha⟩
  · right
    have htaken : (middle.get? entry.place entry.name).isSome := (add_error he).2.1
    have hsource := taken_of_addAll hb htaken
    subst hl
    exact ⟨not_fresh_of_taken hsource, before, entry, rest, middle, rfl, fresh_of_addAll hp hb,
      hsource, ha, htaken⟩

end Component.Registry

namespace Piece

/-- The entry that a piece adds to the components. -/
def entry? : Piece → Option Registration
  | component entry => some entry
  | operation _ _ _ => none

/-- Operations are never refused, so that writing pieces fails as adding their components does. -/
theorem writeAll_addAll (list : List Piece) (document : Document) :
    ∃ after, writeAll list document =
        ((Registry.addAll (list.filterMap entry?) document.components).1.mapError .duplicate,
          after) ∧
      after.components = (Registry.addAll (list.filterMap entry?) document.components).2 := by
  induction list generalizing document with
  | nil => exact ⟨document, rfl, rfl⟩
  | cons piece rest ih =>
    cases piece with
    | operation path key value => exact ih _
    | component entry =>
      simp only [writeAll, write, List.filterMap_cons, entry?, Registry.addAll]
      cases hn : document.components.add entry.place entry.name entry.value with
      | ok components => exact ih { document with components }
      | error duplicate => exact ⟨document, rfl, rfl⟩

end Piece

namespace Document

/-- The names that the object nodes of a schema give to their components, the root last. -/
def nodeKeys (schema : Json) (home label : String) : List (Section × String) :=
  (Spot.nodes ⟨label, schema⟩).map fun spot => (.schemas, join home spot.label)

/-- The names that a declared response gives: those of its schema, then its own. -/
def responseKeys (home : String) (entry : String × Operation.DeclaredResponse) :
    List (Section × String) :=
  (entry.2.schema.map fun schema =>
    nodeKeys schema (join home entry.1) Operation.responseLabel).getD [] ++
    [(.responses, join home entry.1)]

/-- The names that a method of a path gives: those of its body, then those of its responses. -/
def methodKeys (path : String) (entry : String × Method) : List (Section × String) :=
  ((entry.2.bucket? bodyKey).map fun body =>
    nodeKeys body (operationName path entry.1) bodyKey).getD [] ++
  (entry.2.responses?.getD []).flatMap (responseKeys (operationName path entry.1))

/-- The names that routes give to components in the order of their registration. -/
def routeKeys (routes : List Route) : List (Section × String) :=
  routes.flatMap fun route => route.methods.flatMap (methodKeys route.path)

theorem keys_cut (schema : Json) (home label : String) :
    (cut schema home label).map Registration.key = nodeKeys schema home label := by
  rw [cut, List.map_map]
  rfl

theorem keys_responseRegistrations (home : String)
    (entry : String × Operation.DeclaredResponse) :
    (Operation.responseRegistrations home entry).map Registration.key =
      responseKeys home entry := by
  rw [Operation.responseRegistrations, responseKeys, List.map_append]
  cases entry.2.schema with
  | none => rfl
  | some schema =>
    simp only [Option.map_some, Option.getD_some, keys_cut]
    rfl

theorem keys_registrations (path : String) (entry : String × Method) :
    (registrations path entry.1 entry.2).map Registration.key = methodKeys path entry := by
  rw [registrations, methodKeys, List.map_append]
  congr 1
  · cases entry.2.bucket? bodyKey with
    | none => rfl
    | some body => exact keys_cut body _ _
  · cases entry.2.responses? with
    | none => rfl
    | some declared =>
      simp only [Option.map_some, Option.getD_some, List.map_flatMap, keys_responseRegistrations]

/-- What routes register, in order. -/
def routeRegistrations (routes : List Route) : List Registration :=
  routes.flatMap fun route => route.methods.flatMap fun entry =>
    registrations route.path entry.1 entry.2

theorem keys_routeRegistrations (routes : List Route) :
    (routeRegistrations routes).map Registration.key = routeKeys routes := by
  simp only [routeRegistrations, routeKeys, List.map_flatMap, keys_registrations]

theorem entries_methodPieces (path : String) (entry : String × Method) :
    (methodPieces path entry).filterMap Piece.entry? =
      registrations path entry.1 entry.2 := by
  have hentry : Piece.entry? ∘ Piece.component = some := rfl
  rw [methodPieces, List.filterMap_append, List.filterMap_map, hentry, List.filterMap_some]
  simp [Piece.entry?]

theorem entries_routePieces (routes : List Route) :
    (routes.flatMap routePieces).filterMap Piece.entry? = routeRegistrations routes := by
  simp only [routePieces, routeRegistrations, List.filterMap_flatMap, entries_methodPieces]

/-- Adding routes ends as adding their components does. -/
theorem run_addRoutes_addAll (routes : List Route) (document : Document) :
    ∃ after, (addRoutes routes).run.run document =
        ((Registry.addAll (routeRegistrations routes) document.components).1.mapError .duplicate,
          after) ∧
      after.components =
        (Registry.addAll (routeRegistrations routes) document.components).2 := by
  rw [run_addRoutes, ← entries_routePieces]
  exact Piece.writeAll_addAll _ document

section Outcome

variable {routes : List Route} {document after : Document}

theorem addRoutes_of_overwrite (hp : document.components.policy = .overwrite)
    (routes : List Route) : ∃ after, (addRoutes routes).run.run document = (.ok (), after) := by
  obtain ⟨after, hrun, _⟩ := run_addRoutes_addAll routes document
  obtain ⟨components, ha⟩ : ∃ components, Registry.addAll (routeRegistrations routes)
      document.components = (.ok (), components) := Registry.addAll_overwrite hp
  rw [ha] at hrun
  exact ⟨after, hrun⟩

/-- Routes with fresh names are added under either policy. -/
theorem addRoutes_of_fresh (h : document.components.Fresh (routeKeys routes)) :
    ∃ after, (addRoutes routes).run.run document = (.ok (), after) := by
  cases hp : document.components.policy with
  | overwrite => exact addRoutes_of_overwrite hp routes
  | fail =>
    obtain ⟨after, hrun, _⟩ := run_addRoutes_addAll routes document
    rw [← keys_routeRegistrations] at h
    rcases Registry.addAll_fail hp (routeRegistrations routes) with ⟨_, components, ha⟩ | ⟨hno, _⟩
    · rw [ha] at hrun
      exact ⟨after, hrun⟩
    · exact absurd h hno

end Outcome

end Document

end RouteDoc
