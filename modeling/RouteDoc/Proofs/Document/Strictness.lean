import RouteDoc.Proofs.Document.Call

namespace RouteDoc

open Component
open Operation (Route Method)

namespace Component.Registry

/-- The same entries under the overwriting policy. -/
def relaxed (registry : Registry) : Registry := { registry with policy := .overwrite }

theorem get?_relaxed (registry : Registry) (place : Section) (name : String) :
    registry.relaxed.get? place name = registry.get? place name := by
  cases place <;> rfl

theorem put_relaxed (registry : Registry) (place : Section) (name : String) (value : Json) :
    registry.relaxed.put place name value = (registry.put place name value).relaxed := by
  cases place <;> rfl

theorem relaxed_of_overwrite {registry : Registry} (h : registry.policy = .overwrite) :
    registry.relaxed = registry := by
  rw [relaxed, ← h]

/-- An entry that is accepted is accepted under the overwriting policy, with the same effect. -/
theorem add_relaxed {registry next : Registry} {place : Section} {name : String} {value : Json}
    (h : registry.add place name value = .ok next) :
    registry.relaxed.add place name value = .ok next.relaxed := by
  cases hp : registry.policy with
  | overwrite =>
    rw [relaxed_of_overwrite hp, relaxed_of_overwrite ((policy_add h).trans hp), h]
  | fail =>
    have hnew := (add_ok h).1 hp
    rw [add, hnew] at h
    cases h
    rw [add, get?_relaxed, hnew, put_relaxed]

end Component.Registry

/-- The same document under the overwriting policy. -/
def Document.relaxed (document : Document) : Document :=
  { document with components := document.components.relaxed }

namespace Piece

theorem write_relaxed {piece : Piece} {document next : Document}
    (h : piece.write document = .ok next) : piece.write document.relaxed = .ok next.relaxed := by
  cases piece with
  | operation path key value =>
    cases h
    rfl
  | component entry =>
    rw [write] at h ⊢
    split at h
    · rename_i components ha
      cases h
      have hadd : document.relaxed.components.add entry.place entry.name entry.value =
          .ok components.relaxed := Registry.add_relaxed ha
      rw [hadd]
      rfl
    · cases h

theorem writeAll_relaxed {list : List Piece} {document after : Document}
    (h : writeAll list document = (.ok (), after)) :
    writeAll list document.relaxed = (.ok (), after.relaxed) := by
  induction list generalizing document with
  | nil =>
    cases h
    rfl
  | cons piece rest ih =>
    rw [writeAll] at h ⊢
    split at h
    · rename_i next hn
      rw [write_relaxed hn]
      exact ih h
    · cases h

end Piece

namespace Document

/-- Starting depends on the policy in nothing but the policy. -/
theorem start_relaxed {template : Template} {environment module : String} {metadata : Metadata}
    {policy : Policy} {first : Document}
    (h : start template environment module metadata policy = .ok first) :
    start template environment module metadata .overwrite = .ok first.relaxed := by
  rw [start] at h ⊢
  split at h
  · cases h
  · cases h
    rfl

/-- Checked routes that are all added are written as unchecked ones are. -/
theorem addRoutesChecked_ok {compiler : Compiler} {routes : List Route} {document after : Document}
    (h : (addRoutesChecked compiler routes).run.run document = (.ok (), after)) :
    (addRoutes routes).run.run document = (.ok (), after) := by
  rw [run_addRoutes]
  induction routes generalizing document with
  | nil => exact h
  | cons route rest ih =>
    rw [addRoutesChecked, run_bind, run_addRouteChecked] at h
    rw [List.flatMap_cons, Piece.writeAll_append]
    cases hc : compileMethods compiler route.methods with
    | error fault =>
      rw [hc] at h
      cases h
    | ok =>
      rcases hw : Piece.writeAll (routePieces route) document with ⟨result, next⟩
      simp only [hc, hw] at h
      cases result with
      | ok => exact ih h
      | error fault => cases h

/-- When checked routes are all added under the failing policy, then the same routes are all added
unchecked under the overwriting policy, and the document is the same JSON, the order of keys
included. -/
theorem addRoutes_of_strict {template : Template} {environment module : String}
    {metadata : Metadata} {compiler : Compiler} {routes : List Route} {first after : Document}
    (hstart : start template environment module metadata .fail = .ok first)
    (hrun : (addRoutesChecked compiler routes).run.run first = (.ok (), after)) :
    ∃ begun ended, start template environment module metadata .overwrite = .ok begun ∧
      (addRoutes routes).run.run begun = (.ok (), ended) ∧ ended.toJson = after.toJson := by
  have hplain := addRoutesChecked_ok hrun
  rw [run_addRoutes] at hplain
  refine ⟨first.relaxed, after.relaxed, start_relaxed hstart, ?_, rfl⟩
  rw [run_addRoutes]
  exact Piece.writeAll_relaxed hplain

def petBody : Json := .object [("type", .string "object"), ("properties", .object [
  ("owner", .object [("type", .string "object"), ("properties", .object [])]),
  ("name", .object [("type", .string "string")])])]

def petsRoute : Route := {
  path := "/pets"
  methods := [("POST", {
    schema := .object [("properties", .object [("body", petBody)])]
    notes := some { responses := some [("201", { schema := some petBody })] } })] }

/-- A compiler that accepts objects only. -/
def objectCompiler : Compiler := fun schema =>
  if schema.asObject?.isSome then .ok () else .error (.schemaRejected "no object")

theorem addRoutes_of_strict_pets : ∃ first after begun ended,
    start Template.base "production" "shop" {} .fail = .ok first ∧
    (addRoutesChecked objectCompiler [petsRoute]).run.run first = (.ok (), after) ∧
    start Template.base "production" "shop" {} .overwrite = .ok begun ∧
    (addRoutes [petsRoute]).run.run begun = (.ok (), ended) ∧ ended.toJson = after.toJson := by
  obtain ⟨first, hstart⟩ : ∃ first,
      start Template.base "production" "shop" {} .fail = .ok first := ⟨_, rfl⟩
  obtain ⟨after, hrun⟩ : ∃ after,
      (addRoutesChecked objectCompiler [petsRoute]).run.run first = (.ok (), after) := by
    cases hstart
    exact ⟨_, rfl⟩
  obtain ⟨begun, ended, hbegin, hend, hsame⟩ := addRoutes_of_strict hstart hrun
  exact ⟨first, after, begun, ended, hstart, hrun, hbegin, hend, hsame⟩

end Document

end RouteDoc
