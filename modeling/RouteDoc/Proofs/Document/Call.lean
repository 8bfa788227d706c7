import RouteDoc.Proofs.Document.Piece

namespace RouteDoc

open Component
open Operation (Route Method)

namespace Document

/-- What a method of a route brings into a document, in the order of writing. -/
def methodPieces (path : String) (entry : String × Method) : List Piece :=
  (registrations path entry.1 entry.2).map .component ++
    [.operation path (Text.lower entry.1) (builtOperation path entry.1 entry.2)]

def routePieces (route : Route) : List Piece := route.methods.flatMap (methodPieces route.path)

theorem run_onComponents {α : Type} (action : Registering α) (document : Document) :
    (onComponents action).run.run document = match action.run.run document.components with
      | (.ok value, components) => (.ok value, { document with components })
      | (.error duplicate, components) =>
        (.error (.duplicate duplicate), { document with components }) := by
  have hget : (get : Assembling Document).run.run document = (.ok document, document) := rfl
  rw [onComponents, run_bind, hget]
  dsimp only
  rcases action.run.run document.components with ⟨result, components⟩
  cases result <;> rfl

/-- Adding methods is writing their pieces. -/
theorem run_addMethods (path : String) (methods : Entries Method) (document : Document) :
    (addMethods path methods).run.run document =
      Piece.writeAll (methods.flatMap (methodPieces path)) document := by
  induction methods generalizing document with
  | nil => rfl
  | cons entry rest ih =>
    obtain ⟨name, method⟩ := entry
    rw [addMethods, run_bind, run_onComponents, registerOperation_eq, run_bind, run_registerAll,
      List.flatMap_cons, methodPieces, List.append_assoc, Piece.writeAll_append,
      Piece.writeAll_components]
    rcases Registry.addAll (registrations path name method) document.components with
      ⟨result, components⟩
    cases result with
    | ok => exact ih _
    | error duplicate => rfl

theorem run_addRoute (route : Route) (document : Document) :
    (addRoute route).run.run document = Piece.writeAll (routePieces route) document :=
  run_addMethods route.path route.methods document

/-- A checked route is written as a whole, or rejected before anything is written. -/
theorem run_addRouteChecked (compiler : Compiler) (route : Route) (document : Document) :
    (addRouteChecked compiler route).run.run document =
      match compileMethods compiler route.methods with
      | .ok () => Piece.writeAll (routePieces route) document
      | .error fault => (.error fault, document) := by
  rw [addRouteChecked]
  cases compileMethods compiler route.methods with
  | ok => exact run_addRoute route document
  | error fault => rfl

theorem run_addRoutes (routes : List Route) (document : Document) :
    (addRoutes routes).run.run document = Piece.writeAll (routes.flatMap routePieces) document := by
  induction routes generalizing document with
  | nil => rfl
  | cons route rest ih =>
    rw [addRoutes, run_bind, run_addRoute, List.flatMap_cons, Piece.writeAll_append]
    rcases Piece.writeAll (routePieces route) document with ⟨result, after⟩
    cases result with
    | ok => exact ih after
    | error fault => rfl

/-- The request schemas of the route compile. -/
def compiles (compiler : Compiler) (route : Route) : Bool :=
  (compileMethods compiler route.methods).isOk

/-- Checked routes are written up to the first that does not compile. -/
theorem run_addRoutesChecked (compiler : Compiler) (routes : List Route) (document : Document) :
    ((addRoutesChecked compiler routes).run.run document).2 =
      (Piece.writeAll ((routes.takeWhile (compiles compiler)).flatMap routePieces) document).2 := by
  induction routes generalizing document with
  | nil => rfl
  | cons route rest ih =>
    rw [addRoutesChecked, run_bind, run_addRouteChecked, List.takeWhile_cons, compiles]
    cases compileMethods compiler route.methods with
    | error fault => rfl
    | ok =>
      simp only [Except.isOk, Except.toBool, if_true, List.flatMap_cons, Piece.writeAll_append]
      rcases Piece.writeAll (routePieces route) document with ⟨result, after⟩
      cases result with
      | error fault => rfl
      | ok => exact ih after

/-- A request to add routes. -/
inductive Call where
  | addRoute (route : Route)
  | addRouteChecked (compiler : Compiler) (route : Route)
  | addRoutes (routes : List Route)
  | addRoutesChecked (compiler : Compiler) (routes : List Route)

namespace Call

def routes : Call → List Route
  | addRoute route | addRouteChecked _ route => [route]
  | addRoutes routes | addRoutesChecked _ routes => routes

/-- The routes that the call sets out to write. -/
def ready : Call → List Route
  | addRoute route => [route]
  | addRouteChecked compiler route => [route].takeWhile (compiles compiler)
  | addRoutes routes => routes
  | addRoutesChecked compiler routes => routes.takeWhile (compiles compiler)

theorem ready_prefix (call : Call) : call.ready <+: call.routes := by
  cases call with
  | addRoute | addRoutes => exact List.prefix_refl _
  | addRouteChecked | addRoutesChecked => exact List.takeWhile_prefix _

def pieces (call : Call) : List Piece := call.ready.flatMap routePieces

def run : Call → Assembling Unit
  | addRoute route => Document.addRoute route
  | addRouteChecked compiler route => Document.addRouteChecked compiler route
  | addRoutes routes => Document.addRoutes routes
  | addRoutesChecked compiler routes => Document.addRoutesChecked compiler routes

/-- The document after the call, which may have failed. -/
def after (document : Document) (call : Call) : Document := (call.run.run.run document).2

/-- Whatever a call does, it writes its pieces as far as they go. -/
theorem after_eq (call : Call) (document : Document) :
    call.after document = (Piece.writeAll call.pieces document).2 := by
  cases call with
  | addRoute route => rw [after, run, run_addRoute, pieces, ready, List.flatMap_singleton]
  | addRouteChecked compiler route =>
    rw [after, run, run_addRouteChecked, pieces, ready, List.takeWhile_cons, compiles]
    cases compileMethods compiler route.methods with
    | error fault => rfl
    | ok => simp [Except.isOk, Except.toBool]
  | addRoutes routes => rw [after, run, run_addRoutes, pieces, ready]
  | addRoutesChecked compiler routes => exact run_addRoutesChecked compiler routes document

end Call

/-- The document after some calls, failed ones among them. -/
def afterAll (calls : List Call) (document : Document) : Document :=
  calls.foldl Call.after document

/-- All pieces that the calls write, also those that later ones replace. -/
def written : List Call → Document → List Piece
  | [], _ => []
  | call :: rest, document =>
    Piece.accepted call.pieces document ++ written rest (call.after document)

theorem mem_written {calls : List Call} {document : Document} {piece : Piece}
    (h : piece ∈ written calls document) :
    ∃ call ∈ calls, ∃ route ∈ call.routes, piece ∈ routePieces route := by
  induction calls generalizing document with
  | nil => cases h
  | cons call rest ih =>
    rcases List.mem_append.mp h with h | h
    · have hpieces : piece ∈ call.pieces := Piece.accepted_subset _ _ h
      obtain ⟨route, hr, hp⟩ := List.mem_flatMap.mp hpieces
      exact ⟨call, List.mem_cons_self, route, call.ready_prefix.subset hr, hp⟩
    · obtain ⟨other, ho, hp⟩ := ih h
      exact ⟨other, List.mem_cons_of_mem _ ho, hp⟩

/-- Every piece of the document was written or there before. -/
theorem mem_pieces_afterAll {calls : List Call} {document : Document} {piece : Piece}
    (h : piece ∈ (afterAll calls document).pieces) :
    piece ∈ written calls document ∨ piece ∈ document.pieces := by
  induction calls generalizing document with
  | nil => exact Or.inr h
  | cons call rest ih =>
    rcases ih h with hr | hc
    · exact Or.inl (List.mem_append_right _ hr)
    · rw [call.after_eq] at hc
      exact (Piece.mem_pieces_writeAll hc).imp_left (List.mem_append_left _)

/-- What holds at first and survives the writing of any pieces holds after all calls. -/
theorem preserved_afterAll {P : Document → Prop}
    (hstep : ∀ pieces document, P document → P (Piece.writeAll pieces document).2)
    (calls : List Call) {document : Document} (hp : P document) : P (afterAll calls document) := by
  induction calls generalizing document with
  | nil => exact hp
  | cons call rest ih =>
    have hcall : P (call.after document) := by
      rw [call.after_eq]
      exact hstep call.pieces document hp
    exact ih hcall

end Document
end RouteDoc
