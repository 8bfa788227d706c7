import RouteDoc.Proofs.Document.Clean
import RouteDoc.Proofs.Document.Definitions

namespace RouteDoc

open Operation (Route Method)

namespace Document

/-- What is found in an operation of a document stands together among the findings. -/
theorem operationIssues_of_operation {document : Document} {path name : String}
    {operation : Operation} (hname : Text.lower name ∈ Check.httpMethods)
    (h : document.operation? path name = some operation) :
    Check.operationIssues (Json.Pointer.child "/paths" path ++ "/" ++ Text.lower name)
      (Check.templateParameters path) operation.toJson <:+: Check.structural document.toJson := by
  obtain ⟨item, hi, ho⟩ := Option.bind_eq_some_iff.mp h
  have hvalue : item.toJson.get? (Text.lower name) = some operation.toJson := by
    have hmap := Entries.get?_map Operation.toJson (Text.lower name) item
    rw [ho] at hmap
    exact hmap
  have hitem : (path, item.toJson) ∈ document.toJson.entriesAt "paths" :=
    List.mem_map.mpr ⟨(path, item), Entries.mem_of_get? hi, rfl⟩
  have hoperations : Check.operationIssues
      (Json.Pointer.child "/paths" path ++ "/" ++ Text.lower name)
      (Check.templateParameters path) operation.toJson <:+:
      Check.operationsIssues document.toJson := by
    refine List.IsInfix.trans ?_ (List.infix_of_mem_flatten (List.mem_map_of_mem hitem))
    dsimp only
    refine List.IsInfix.trans ?_ (List.infix_of_mem_flatten (List.mem_map_of_mem hname))
    simp only [hvalue]
    exact List.infix_refl _
  change _ <:+: Check.versionIssues document.toJson ++ Check.infoIssues document.toJson ++
    Check.serversIssues document.toJson ++ Check.componentsIssues document.toJson ++
    Check.schemaIssues document.toJson ++ Check.referenceIssues document.toJson ++
    Check.operationsIssues document.toJson
  exact hoperations.trans (List.suffix_append _ _).isInfix

/-- For the last definition of a method, the check of path parameters finds each property of the
path bucket that is not in its required list, and each name of the path that is none of them. So it
finds nothing exactly if all properties are required and all names are among them. -/
theorem pathFindings_of_isLast {routes : List Route} {document after : Document}
    (hrun : (addRoutes routes).run.run document = (.ok (), after)) {path name : String}
    {method : Method} (hlast : IsLast routes path (name, method))
    (hname : name.toLower ∈ Check.httpMethods) : ∃ operation location,
      after.operation? path name = some operation ∧
      location = Json.Pointer.child "/paths" path ++ "/" ++ Text.lower name ∧
      Check.pathParameterIssues location (Check.templateParameters path) operation.toJson =
        method.pathFindings location path ∧
      method.pathFindings location path <:+: Check.structural after.toJson ∧
      (method.pathFindings location path = [] ↔
        (∀ property ∈ method.pathProperties.keys, method.ListsRequired property) ∧
        ∀ named ∈ Check.templateParameters path, named ∈ method.pathProperties.keys) := by
  have hstored : after.operation? path name = some (builtOperation path name method) :=
    operation?_of_isLast hrun hlast rfl
  have hfound := pathParameterIssues_builtOperation path name
    (Json.Pointer.child "/paths" path ++ "/" ++ Text.lower name) method
  refine ⟨_, _, hstored, rfl, hfound, ?_, method.pathFindings_eq_nil_iff _ path⟩
  have hissues := operationIssues_of_operation (Piece.lower_mem_httpMethods hname) hstored
  rw [Operation.operationIssues_eq, hfound] at hissues
  exact (List.suffix_append _ _).isInfix.trans hissues

/-- The bucket requires an object, which is no parameter, instead of the identifier. -/
def translationParams : Json := .object [
  ("properties", .object [
    ("edition", .object [("type", .string "OBJECT")]),
    ("id", .object [("type", .string "string")]),
    ("page", .object [("type", .string "integer")])]),
  ("required", .array [.string "edition", .string "page"])]

def translationMethod : Method where
  schema := .object [("properties", .object [("params", translationParams)])]

def translationRoute : Route where
  path := "/books/\x7bid\x7d/\x7blang\x7d/\x7bpage/\x7blang\x7d"
  methods := [("GeT", translationMethod)]

theorem pathFindings_of_isLast_translation : ∃ first after operation location,
    start Template.base "default" "library" {} .fail = .ok first ∧
    (addRoutes [translationRoute]).run.run first = (.ok (), after) ∧
    after.operation? translationRoute.path "GeT" = some operation ∧
    Check.pathParameterIssues location (Check.templateParameters translationRoute.path)
      operation.toJson = [Check.unflagged location 0 "id", Check.undeclared location "lang",
        Check.undeclared location "lang"] ∧
    [Check.unflagged location 0 "id", Check.undeclared location "lang",
      Check.undeclared location "lang"] <:+: Check.structural after.toJson := by
  obtain ⟨first, hstart⟩ : ∃ first,
      start Template.base "default" "library" {} .fail = .ok first := ⟨_, rfl⟩
  obtain ⟨after, hrun⟩ : ∃ after,
      (addRoutes [translationRoute]).run.run first = (.ok (), after) := by
    cases hstart
    exact ⟨_, rfl⟩
  have hlast : IsLast [translationRoute] translationRoute.path ("GeT", translationMethod) :=
    ⟨[], [], rfl, List.forall_mem_nil _⟩
  have hname : "GeT".toLower ∈ Check.httpMethods := by decide +kernel
  obtain ⟨operation, location, hstored, _, hfound, hinfix, _⟩ :=
    pathFindings_of_isLast hrun hlast hname
  have hfindings : translationMethod.pathFindings location translationRoute.path =
      [Check.unflagged location 0 "id", Check.undeclared location "lang",
        Check.undeclared location "lang"] := by
    rfl
  rw [hfindings] at hfound hinfix
  exact ⟨first, after, operation, location, hstart, hrun, hstored, hfound, hinfix⟩

end Document

end RouteDoc
