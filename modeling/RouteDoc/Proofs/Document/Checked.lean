import RouteDoc.Proofs.Document.Call

namespace RouteDoc.Document

open Operation (Method Route)

/-- The compiler rejects the request schema of the method; a null schema stands for none. -/
def Rejects (compiler : Compiler) (method : Method) (fault : Fault) : Prop :=
  method.schema.isNull = false ∧ compiler method.schema = .error fault

/-- No request schema of these methods is rejected. -/
def NoneRejected (compiler : Compiler) (methods : Entries Method) : Prop :=
  ∀ entry ∈ methods, ∀ fault, ¬Rejects compiler entry.2 fault

section Compiling

variable {compiler : Compiler} {methods : Entries Method}

/-- A method is passed over, or its request schema is rejected and ends the compilation. -/
theorem compileMethods_cons (compiler : Compiler) (entry : String × Method)
    (rest : Entries Method) :
    ((∀ fault, ¬Rejects compiler entry.2 fault) ∧
      compileMethods compiler (entry :: rest) = compileMethods compiler rest) ∨
    ∃ fault, Rejects compiler entry.2 fault ∧
      compileMethods compiler (entry :: rest) = .error fault := by
  obtain ⟨name, method⟩ := entry
  rw [compileMethods]
  cases hn : method.schema.isNull with
  | true =>
    refine Or.inl ⟨fun fault hr => ?_, rfl⟩
    cases hn.symm.trans hr.1
  | false =>
    cases hc : compiler method.schema with
    | ok =>
      refine Or.inl ⟨fun fault hr => ?_, rfl⟩
      cases hc.symm.trans hr.2
    | error fault => exact Or.inr ⟨fault, ⟨hn, hc⟩, rfl⟩

theorem compileMethods_of_noneRejected (h : NoneRejected compiler methods) :
    compileMethods compiler methods = .ok () := by
  induction methods with
  | nil => rfl
  | cons entry rest ih =>
    rcases compileMethods_cons compiler entry rest with ⟨_, heq⟩ | ⟨fault, hr, _⟩
    · rw [heq]
      exact ih fun other hm => h other (List.mem_cons_of_mem _ hm)
    · exact absurd hr (h entry List.mem_cons_self fault)

/-- The compilation stops at the first request schema that is rejected. -/
theorem exists_first_rejected (h : ¬NoneRejected compiler methods) :
    ∃ passed entry others fault, methods = passed ++ entry :: others ∧
      NoneRejected compiler passed ∧ Rejects compiler entry.2 fault ∧
      compileMethods compiler methods = .error fault := by
  induction methods with
  | nil => exact absurd (List.forall_mem_nil _) h
  | cons first rest ih =>
    rcases compileMethods_cons compiler first rest with ⟨hpass, heq⟩ | ⟨fault, hr, heq⟩
    · have hrest : ¬NoneRejected compiler rest := by
        intro hnone
        exact h (List.forall_mem_cons.mpr ⟨hpass, hnone⟩)
      obtain ⟨passed, entry, others, fault, rfl, hnone, hr, hc⟩ := ih hrest
      refine ⟨first :: passed, entry, others, fault, rfl, ?_, hr, heq.trans hc⟩
      exact List.forall_mem_cons.mpr ⟨hpass, hnone⟩
    · exact ⟨[], first, rest, fault, rfl, List.forall_mem_nil _, hr, heq⟩

end Compiling

/-- A route is added as an unchecked one would be, which may fail as well, unless one of its request
schemas is rejected. Then the first that is rejected gives the error, and the document stays as it
is, with none of the methods before added. -/
theorem addRouteChecked_outcome (compiler : Compiler) (route : Route) (document : Document) :
    (NoneRejected compiler route.methods ∧
      (addRouteChecked compiler route).run.run document = (addRoute route).run.run document) ∨
    ∃ passed entry others fault, route.methods = passed ++ entry :: others ∧
      NoneRejected compiler passed ∧ Rejects compiler entry.2 fault ∧
      (addRouteChecked compiler route).run.run document = (.error fault, document) := by
  by_cases hnone : NoneRejected compiler route.methods
  · left
    refine ⟨hnone, ?_⟩
    rw [run_addRouteChecked, compileMethods_of_noneRejected hnone, run_addRoute]
  · right
    obtain ⟨passed, entry, others, fault, hsplit, hpassed, hr, hc⟩ := exists_first_rejected hnone
    refine ⟨passed, entry, others, fault, hsplit, hpassed, hr, ?_⟩
    rw [run_addRouteChecked, hc]

/-- Routes without a rejected schema are added like unchecked ones, and the rest follows. -/
theorem run_addRoutesChecked_append {compiler : Compiler} {before : List Route}
    (h : ∀ route ∈ before, NoneRejected compiler route.methods) (rest : List Route)
    (document : Document) :
    (addRoutesChecked compiler (before ++ rest)).run.run document =
      match (addRoutes before).run.run document with
      | (.ok (), after) => (addRoutesChecked compiler rest).run.run after
      | (.error cause, after) => (.error cause, after) := by
  induction before generalizing document with
  | nil => rfl
  | cons route others ih =>
    have hroute := compileMethods_of_noneRejected (h route List.mem_cons_self)
    rw [List.cons_append, addRoutesChecked, addRoutes, run_bind, run_bind, run_addRouteChecked,
      hroute, run_addRoute]
    rcases Piece.writeAll (routePieces route) document with ⟨result, next⟩
    cases result with
    | error cause => rfl
    | ok => exact ih (fun other hm => h other (List.mem_cons_of_mem _ hm)) next

/-- A rejected schema adds nothing of its own route and nothing of those after. -/
theorem run_addRoutesChecked_rejected {compiler : Compiler} {route : Route} {fault : Fault}
    (h : compileMethods compiler route.methods = .error fault) (rest : List Route)
    (document : Document) :
    (addRoutesChecked compiler (route :: rest)).run.run document = (.error fault, document) := by
  rw [addRoutesChecked, run_bind, run_addRouteChecked, h]

theorem exists_first_route {compiler : Compiler} {routes : List Route}
    (h : ∃ route ∈ routes, ¬NoneRejected compiler route.methods) :
    ∃ before route rest, routes = before ++ route :: rest ∧
      (∀ earlier ∈ before, NoneRejected compiler earlier.methods) ∧
      ¬NoneRejected compiler route.methods := by
  classical
  obtain ⟨route, hfind⟩ := Option.isSome_iff_exists.mp (List.find?_isSome
    (p := fun route : Route => decide ¬NoneRejected compiler route.methods).mpr (by simpa using h))
  obtain ⟨hr, before, rest, rfl, hbefore⟩ := List.find?_eq_some_iff_append.mp hfind
  exact ⟨before, route, rest, rfl, by simpa using hbefore, by simpa using hr⟩

/-- If a request schema is rejected, then the first that is decides: the routes before its route are
added, its own route and the later ones are not. The complaint is about that schema unless one of
the routes before is refused already. -/
theorem addRoutesChecked_of_rejected {compiler : Compiler} {routes : List Route}
    (hrejected : ∃ route ∈ routes, ∃ entry ∈ route.methods, ∃ fault,
      Rejects compiler entry.2 fault) (document : Document) :
    ∃ before route rest passed entry others fault,
      routes = before ++ route :: rest ∧
      (∀ earlier ∈ before, NoneRejected compiler earlier.methods) ∧
      route.methods = passed ++ entry :: others ∧ NoneRejected compiler passed ∧
      Rejects compiler entry.2 fault ∧
      (addRoutesChecked compiler routes).run.run document =
        match (addRoutes before).run.run document with
        | (.ok (), after) => (.error fault, after)
        | (.error cause, after) => (.error cause, after) := by
  have hsome : ∃ route ∈ routes, ¬NoneRejected compiler route.methods := by
    obtain ⟨route, hr, entry, he, fault, hf⟩ := hrejected
    exact ⟨route, hr, fun hnone => hnone entry he fault hf⟩
  obtain ⟨before, route, rest, rfl, hbefore, hroute⟩ := exists_first_route hsome
  obtain ⟨passed, entry, others, fault, hsplit, hpassed, hr, hc⟩ := exists_first_rejected hroute
  refine ⟨before, route, rest, passed, entry, others, fault, rfl, hbefore, hsplit, hpassed, hr, ?_⟩
  rw [run_addRoutesChecked_append hbefore]
  rcases (addRoutes before).run.run document with ⟨result, after⟩
  cases result with
  | error cause => rfl
  | ok => exact run_addRoutesChecked_rejected hc rest after

def shelvesRoute : Route := { path := "/shelves", methods := [("GET", {})] }

/-- A request schema that no draft accepts. -/
def brokenMethod : Method := { schema := .object [("type", .bool true)] }

def booksRoute : Route := { path := "/books", methods := [("POST", brokenMethod)] }

theorem rejects_brokenMethod : ∃ fault, Rejects .usual brokenMethod fault := by
  have hbad : (Compiler.usual brokenMethod.schema).isOk = false := by decide +kernel
  cases hc : Compiler.usual brokenMethod.schema with
  | ok =>
    rw [hc] at hbad
    cases hbad
  | error fault => exact ⟨fault, rfl, hc⟩

theorem addRoutesChecked_of_rejected_books :
    (∃ fault, Rejects .usual brokenMethod fault) ∧
    ∀ document, ∃ before route rest passed entry others fault,
      [shelvesRoute, booksRoute] = before ++ route :: rest ∧
      (∀ earlier ∈ before, NoneRejected .usual earlier.methods) ∧
      route.methods = passed ++ entry :: others ∧ NoneRejected .usual passed ∧
      Rejects .usual entry.2 fault ∧
      (addRoutesChecked .usual [shelvesRoute, booksRoute]).run.run document =
        match (addRoutes before).run.run document with
        | (.ok (), after) => (.error fault, after)
        | (.error cause, after) => (.error cause, after) := by
  refine ⟨rejects_brokenMethod, fun document => addRoutesChecked_of_rejected ?_ document⟩
  refine ⟨booksRoute, List.mem_cons_of_mem _ List.mem_cons_self, ?_⟩
  exact ⟨_, List.mem_cons_self, rejects_brokenMethod⟩

/-- The call fails for the books, but the shelves are in the document. -/
theorem addRoutesChecked_keeps_shelves : ∃ fault first after,
    start Template.base "default" "library" {} .overwrite = .ok first ∧
    Rejects .usual brokenMethod fault ∧
    (addRoutesChecked .usual [shelvesRoute, booksRoute]).run.run first = (.error fault, after) ∧
    first.paths.keys = [] ∧ after.paths.keys = ["/shelves"] := by
  obtain ⟨fault, hr⟩ := rejects_brokenMethod
  obtain ⟨first, hstart⟩ : ∃ first,
      start Template.base "default" "library" {} .overwrite = .ok first := ⟨_, rfl⟩
  have hshelves : ∀ route ∈ [shelvesRoute], NoneRejected .usual route.methods := by
    intro route hm entry he cause hrej
    cases List.mem_singleton.mp hm
    cases List.mem_singleton.mp he
    cases hrej.1
  have hbooks : compileMethods .usual booksRoute.methods = .error fault := by
    rcases compileMethods_cons .usual ("POST", brokenMethod) [] with ⟨hnone, _⟩ | ⟨cause, hc, heq⟩
    · exact absurd hr (hnone fault)
    · cases hr.2.symm.trans hc.2
      exact heq
  obtain ⟨after, hadd, hkeys⟩ : ∃ after,
      (addRoutes [shelvesRoute]).run.run first = (.ok (), after) ∧
        after.paths.keys = ["/shelves"] := by
    cases hstart
    exact ⟨_, rfl, rfl⟩
  have hrun : (addRoutesChecked .usual ([shelvesRoute] ++ [booksRoute])).run.run first =
      (.error fault, after) := by
    rw [run_addRoutesChecked_append hshelves, hadd]
    exact run_addRoutesChecked_rejected hbooks [] after
  refine ⟨fault, first, after, hstart, hr, hrun, ?_, hkeys⟩
  cases hstart
  rfl

end RouteDoc.Document
