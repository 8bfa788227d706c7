import RouteDoc.Proofs.Document.Containment
import RouteDoc.Proofs.Document.Findings

namespace RouteDoc

open Component
open Operation (Route Method DeclaredResponse responseComponent responseReferences)

namespace Document

open Piece (writeAll)

/-- The only responses that a method registers are its declared ones. -/
theorem exists_declared_of_mem_registrations {path name : String} {method : Method}
    {entry : Registration} (hm : entry ∈ registrations path name method)
    (hplace : entry.place = .responses) :
    ∃ declared status response, method.responses? = some declared ∧
      (status, response) ∈ declared ∧
      entry = responseComponent (join (operationName path name) status) response := by
  have hnot : ∀ {schema : Json} {home label : String}, entry ∉ cut schema home label := by
    intro schema home label hcut
    cases hplace.symm.trans (place_cut entry hcut)
  rcases List.mem_append.mp hm with hm | hm
  · cases hb : method.bucket? bodyKey with
    | none => simp [hb] at hm
    | some body =>
      rw [hb] at hm
      exact absurd hm hnot
  · cases hr : method.responses? with
    | none => simp [hr] at hm
    | some declared =>
      rw [hr] at hm
      obtain ⟨⟨status, response⟩, hd, hm⟩ := List.mem_flatMap.mp hm
      refine ⟨declared, status, response, rfl, hd, ?_⟩
      rcases List.mem_append.mp hm with hm | hm
      · cases hs : response.schema with
        | none => simp [hs] at hm
        | some schema =>
          simp only [hs, Option.map_some, Option.getD_some] at hm
          exact absurd hm hnot
      · exact List.mem_singleton.mp hm

theorem keys_responseReferences (home : String) (declared : Entries DeclaredResponse) :
    (responseReferences home declared).keys = declared.keys :=
  Entries.keys_map (fun status (_ : DeclaredResponse) =>
    (⟨reference .responses (join home status)⟩ : Operation.Reference)) declared

section Method

variable {path name : String} {method : Method} {document after : Document}

theorem operation?_methodPieces
    (h : writeAll (methodPieces path (name, method)) document = (.ok (), after)) :
    after.operation? path name = some (builtOperation path name method) := by
  have hat := pieceAt?_writeAll_last h (List.forall_mem_nil _)
  exact pieceAt?_operation.mp hat

/-- Each declared status has the component of one of its responses. -/
theorem get?_response_methodPieces
    (h : writeAll (methodPieces path (name, method)) document = (.ok (), after))
    {declared : Entries DeclaredResponse} (hr : method.responses? = some declared)
    {status : String} (hs : status ∈ declared.keys) :
    ∃ response, (status, response) ∈ declared ∧
      after.components.get? .responses (join (operationName path name) status) =
        some (responseComponent (join (operationName path name) status) response).value := by
  obtain ⟨⟨status, response⟩, hd, rfl⟩ := List.mem_map.mp hs
  have hregistered : responseComponent (join (operationName path name) status) response ∈
      registrations path name method := by
    rw [registrations, hr]
    apply List.mem_append_right
    exact List.mem_flatMap.mpr ⟨_, hd, List.mem_append_right _ List.mem_cons_self⟩
  have hslot : ∃ piece ∈ methodPieces path (name, method),
      piece.slot = .component .responses (join (operationName path name) status) :=
    ⟨_, List.mem_append_left _ (List.mem_map_of_mem hregistered), rfl⟩
  obtain ⟨piece, hm, hat⟩ := exists_pieceAt?_writeAll h hslot
  have hplace := slot_of_pieceAt? hat
  rcases List.mem_append.mp hm with hm | hm
  · obtain ⟨entry, he, rfl⟩ := List.mem_map.mp hm
    rw [Piece.slot, Piece.Slot.component.injEq] at hplace
    obtain ⟨_, other, last, ho, hlast, rfl⟩ := exists_declared_of_mem_registrations he hplace.1
    cases hr.symm.trans ho
    have hsame : other = status := (String.append_right_inj _).mp hplace.2
    subst hsame
    exact ⟨last, hlast, pieceAt?_component.mp hat⟩
  · rw [List.mem_singleton.mp hm] at hplace
    cases hplace

end Method

variable {route : Route} {document middle : Document} {k : Nat} {name : String} {method : Method}

/-- An operation is left alone by the rest of a route that does not define it again, whether this
is added or refused. -/
theorem operation?_addRoute (hrun : (addRoute (route.upTo k)).run.run document = (.ok (), middle))
    {operation : Operation} (hstored : middle.operation? route.path name = some operation)
    (hlater : ∀ later ∈ route.methods.drop k, Text.lower later.1 ≠ Text.lower name) :
    ((addRoute route).run.run document).2.operation? route.path name = some operation := by
  have hfirst : (addRoute { route with methods := route.methods.take k }).run.run document =
      (.ok (), middle) := hrun
  rw [run_addRoute_append (List.take_append_drop k route.methods).symm, hfirst]
  dsimp only
  rw [run_addRoute]
  apply operation?_of_pairs _ hstored
  intro later hm heq
  exact hlater later hm (congrArg Prod.snd heq)

/-- When a method is added, its operation has one response for each declared status, in their order
and each with the component registered for it, and the shared default if nothing is declared. Only
an empty list of responses leaves it without any, and exactly then the check of operations finds
that. The operation stays unless the rest of the route defines it again. -/
theorem responses_of_added (hk : route.methods[k]? = some (name, method))
    (hrun : (addRoute (route.upTo (k + 1))).run.run document = (.ok (), middle)) :
    ∃ operation, middle.operation? route.path name = some operation ∧
      (method.responses? = none → operation.responses = Operation.defaultResponses) ∧
      (∀ declared, method.responses? = some declared →
        operation.responses = responseReferences (operationName route.path name) declared ∧
        operation.responses.keys = declared.keys ∧
        ∀ status ∈ declared.keys, ∃ response, (status, response) ∈ declared ∧
          middle.components.get? .responses (join (operationName route.path name) status) =
            some (responseComponent (join (operationName route.path name) status) response).value) ∧
      (operation.responses = [] ↔ method.responses? = some []) ∧
      (∀ location named,
        Check.unanswered location ∈ Check.operationIssues location named operation.toJson ↔
          method.responses? = some []) ∧
      ((∀ later ∈ route.methods.drop (k + 1), Text.lower later.1 ≠ Text.lower name) →
        ((addRoute route).run.run document).2.operation? route.path name = some operation) := by
  obtain ⟨before, hwrite⟩ : ∃ before,
      writeAll (methodPieces route.path (name, method)) before = (.ok (), middle) := by
    rw [run_addRoute_upTo_succ hk] at hrun
    split at hrun
    · exact ⟨_, hrun⟩
    · cases hrun
  have hstored := operation?_methodPieces hwrite
  refine ⟨_, hstored, ?_, ?_, builtResponses_eq_nil_iff, ?_, ?_⟩
  · intro hr
    rw [builtOperation, builtResponses, hr]
    rfl
  · intro declared hr
    have hresponses : (builtOperation route.path name method).responses =
        responseReferences (operationName route.path name) declared := by
      rw [builtOperation, builtResponses, hr]
      rfl
    refine ⟨hresponses, ?_, fun status hs => get?_response_methodPieces hwrite hr hs⟩
    rw [hresponses, keys_responseReferences]
  · intro location named
    rw [Operation.unanswered_mem_operationIssues]
    exact builtResponses_eq_nil_iff
  · intro hlater
    exact operation?_addRoute hrun hstored hlater

/-- A method without notes, one that declares two responses, and one whose notes have none. -/
def reviewsRoute : Route where
  path := "/reviews"
  methods := [
    ("GET", {}),
    ("POST", { notes := some {
      responses := some [("409", { description := some "Written before" }), ("201", {})] } }),
    ("PUT", { notes := some {} })]

theorem responses_of_added_reviews : ∃ first middle operation,
    start Template.base "default" "shop" {} .fail = .ok first ∧
    (addRoute (reviewsRoute.upTo 2)).run.run first = (.ok (), middle) ∧
    middle.operation? "/reviews" "POST" = some operation ∧
    operation.responses = [("409", ⟨"#/components/responses/reviews.post.409"⟩),
      ("201", ⟨"#/components/responses/reviews.post.201"⟩)] ∧
    middle.components.get? .responses "reviews.post.409" =
      some (.object [("description", .string "Written before")]) ∧
    Check.unanswered "/paths/~1reviews/post" ∉
      Check.operationIssues "/paths/~1reviews/post" [] operation.toJson ∧
    ((addRoute reviewsRoute).run.run first).2.operation? "/reviews" "POST" = some operation := by
  obtain ⟨first, hstart⟩ : ∃ first,
      start Template.base "default" "shop" {} .fail = .ok first := ⟨_, rfl⟩
  obtain ⟨middle, hrun⟩ : ∃ middle,
      (addRoute (reviewsRoute.upTo 2)).run.run first = (.ok (), middle) := by
    cases hstart
    exact ⟨_, rfl⟩
  have hmethod : reviewsRoute.methods[1]? = some ("POST", _) := rfl
  obtain ⟨operation, hstored, _, hdeclared, _, hfound, hstays⟩ := responses_of_added hmethod hrun
  obtain ⟨hreferences, _, hregistered⟩ := hdeclared _ rfl
  obtain ⟨response, hresponse, hcomponent⟩ := hregistered "409" List.mem_cons_self
  refine ⟨first, middle, operation, hstart, hrun, hstored, hreferences, ?_, ?_, ?_⟩
  · rcases List.mem_cons.mp hresponse with he | hm
    · cases he
      exact hcomponent
    · have hkey : "409" = "201" := congrArg Prod.fst (List.mem_singleton.mp hm)
      exact absurd hkey (by decide)
  · rw [hfound]
    nofun
  · apply hstays
    intro later hm
    rw [List.mem_singleton.mp hm]
    decide

/-- The only method declares an empty list of responses. -/
def silentRoute : Route where
  path := "/books"
  methods := [("GET", { notes := some { responses := some [] } })]

/-- The route is added, but its operation has no responses, and the check finds that. -/
theorem unanswered_silentRoute : ∃ first after operation,
    start Template.base "default" "library"
      { title := some "Library", description := some "Books" } .overwrite = .ok first ∧
    (addRoute silentRoute).run.run first = (.ok (), after) ∧
    after.operation? "/books" "GET" = some operation ∧ operation.responses = [] ∧
    Check.unanswered "/paths/~1books/get" ∈ Check.structural after.toJson := by
  obtain ⟨first, hstart⟩ : ∃ first, start Template.base "default" "library"
      { title := some "Library", description := some "Books" } .overwrite = .ok first := ⟨_, rfl⟩
  obtain ⟨after, operation, hrun, hstored, hnone⟩ : ∃ after operation,
      (addRoute silentRoute).run.run first = (.ok (), after) ∧
      after.operation? "/books" "GET" = some operation ∧ operation.responses = [] := by
    cases hstart
    exact ⟨_, _, rfl, rfl, rfl⟩
  refine ⟨first, after, operation, hstart, hrun, hstored, hnone, ?_⟩
  have hmethod : Text.lower "GET" ∈ Check.httpMethods := by decide
  have hfound := (operationIssues_of_operation hmethod hstored).subset
  have hplace : Json.Pointer.child "/paths" "/books" ++ "/" ++ Text.lower "GET" =
      "/paths/~1books/get" := by decide
  rw [hplace] at hfound
  apply hfound
  exact (Operation.unanswered_mem_operationIssues operation _ _).mpr hnone

end Document

end RouteDoc
