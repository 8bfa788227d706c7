import RouteDoc.Proofs.Check.Reference
import RouteDoc.Proofs.Document.Grounded

namespace RouteDoc

open Component
open Operation (Route Method)

namespace Document

open Piece

/-- The reference is written for an entry of this section, and is read as that entry's name whenever
this is a component key. -/
def Resolves (components : Registry) (place : Section) (target : String) : Prop :=
  ∃ name, target = reference place name ∧ (components.get? place name).isSome ∧
    (Check.isComponentKey name → Check.componentOf? target = some (place.key, name))

/-- The reference is written for, or read as, an entry of the components. -/
def Refers (components : Registry) (target : String) : Prop :=
  ∃ place name, (components.get? place name).isSome ∧
    (target = reference place name ∨ Check.componentOf? target = some (place.key, name))

/-- No name of the first registry is missing in the second. -/
def Extends (old new : Registry) : Prop :=
  ∀ place name, (old.get? place name).isSome → (new.get? place name).isSome

theorem Refers.mono {old new : Registry} {target : String} (h : Refers old target)
    (hs : Extends old new) : Refers new target := by
  obtain ⟨place, name, hg, ht⟩ := h
  exact ⟨place, name, hs place name hg, ht⟩

theorem Resolves.mono {old new : Registry} {place : Section} {target : String}
    (h : Resolves old place target) (hs : Extends old new) : Resolves new place target := by
  obtain ⟨name, he, hg, hk⟩ := h
  exact ⟨name, he, hs place name hg, hk⟩

theorem resolves_reference {components : Registry} {place : Section} {name : String}
    (h : (components.get? place name).isSome) :
    Resolves components place (reference place name) :=
  ⟨name, rfl, h, Check.componentOf?_of_isComponentKey place⟩

/-- All references of the pieces resolve. -/
def AllResolve (components : Registry) (pieces : List Piece) : Prop :=
  ∀ piece ∈ pieces, ∀ target ∈ piece.targets, Resolves components target.1 target.2

theorem AllResolve.mono {old new : Registry} {pieces : List Piece} (h : AllResolve old pieces)
    (hs : Extends old new) : AllResolve new pieces :=
  fun piece hp target ht => (h piece hp target ht).mono hs

/-- Pieces that are grounded in the names of a document resolve once they are written, and no name
of the document is lost. -/
theorem allResolve_accepted {known : List (Section × String)} {list : List Piece}
    {document : Document} (hg : Grounded known list)
    (hk : ∀ key ∈ known, (document.components.get? key.1 key.2).isSome) :
    AllResolve (writeAll list document).2.components (accepted list document) ∧
      Extends document.components (writeAll list document).2.components := by
  induction list generalizing known document with
  | nil => exact ⟨List.forall_mem_nil _, fun _ _ h => h⟩
  | cons piece rest ih =>
    rw [writeAll, accepted]
    cases hw : piece.write document with
    | error fault => exact ⟨List.forall_mem_nil _, fun _ _ h => h⟩
    | ok next =>
      have hs : Extends document.components next.components := fun _ _ h =>
        get?_isSome_write hw (Or.inl h)
      have hknown : ∀ key ∈ known ++ piece.keys, (next.components.get? key.1 key.2).isSome := by
        intro key hm
        refine get?_isSome_write hw ?_
        exact (List.mem_append.mp hm).imp (hk key) id
      obtain ⟨hrest, hmore⟩ := ih hg.2 hknown
      have hfirst : ∀ target ∈ piece.targets,
          Resolves (writeAll rest next).2.components target.1 target.2 := by
        intro target ht
        obtain ⟨name, hm, he⟩ := hg.1 target ht
        rw [he]
        exact resolves_reference (hmore _ _ (hs _ _ (hk _ hm)))
      exact ⟨List.forall_mem_cons.mpr ⟨hfirst, hrest⟩, fun place name h =>
        hmore place name (hs place name h)⟩

/-- Whatever calls write resolves after all of them, if the shared response is there at first. -/
theorem allResolve_written (calls : List Call) {document : Document}
    (hshared : (document.components.get? sharedKey.1 sharedKey.2).isSome) :
    AllResolve (afterAll calls document).components (written calls document) ∧
      Extends document.components (afterAll calls document).components := by
  induction calls generalizing document with
  | nil => exact ⟨List.forall_mem_nil _, fun _ _ h => h⟩
  | cons call rest ih =>
    have hgrounded : Grounded [sharedKey] call.pieces :=
      Grounded.flatMap fun route _ => grounded_routePieces route
    have hknown : ∀ key ∈ [sharedKey], (document.components.get? key.1 key.2).isSome := by
      intro key hm
      rwa [List.mem_singleton.mp hm]
    obtain ⟨hcall, hkept⟩ := allResolve_accepted hgrounded hknown
    rw [← call.after_eq] at hcall hkept
    obtain ⟨hrest, hmore⟩ := ih (hkept _ _ hshared)
    exact ⟨List.forall_mem_append.mpr ⟨hcall.mono hmore, hrest⟩, fun place name h =>
      hmore place name (hkept place name h)⟩

/-- The pieces and names of a new document are those of its template. -/
theorem start_ok {template : Template} {environment module : String} {metadata : Metadata}
    {policy : Policy} {first : Document}
    (h : start template environment module metadata policy = .ok first) :
    first.pieces = template.pieces ∧ first.components = { template.components with policy } := by
  rw [start] at h
  split at h
  · cases h
  · cases h
    exact ⟨rfl, rfl⟩

/-- Calls lose no name of the template, and what they write resolves. -/
theorem allResolve_afterAll {template : Template} {environment module : String}
    {metadata : Metadata} {policy : Policy} {first : Document}
    (hshared : (template.components.get? sharedKey.1 sharedKey.2).isSome)
    (hstart : start template environment module metadata policy = .ok first)
    (calls : List Call) : AllResolve (afterAll calls first).components (written calls first) ∧
      Extends template.components (afterAll calls first).components := by
  have hsame (place : Section) (name : String) :
      first.components.get? place name = template.components.get? place name := by
    rw [(start_ok hstart).2]
    cases place <;> rfl
  have hkept : Extends template.components first.components := fun place name h => by
    rwa [hsame]
  obtain ⟨hall, hmore⟩ := allResolve_written calls (hkept _ _ hshared)
  exact ⟨hall, fun place name h => hmore place name (hkept place name h)⟩

/-- After any calls, failed ones among them, each reference that was written resolves. What else is
in the document came from the template and still refers to entries. -/
theorem references_resolve {template : Template} {environment module : String}
    {metadata : Metadata} {policy : Policy} {first : Document}
    (hshared : (template.components.get? sharedKey.1 sharedKey.2).isSome)
    (hown : ∀ piece ∈ template.pieces, ∀ target ∈ piece.targets,
      Refers template.components target.2)
    (hstart : start template environment module metadata policy = .ok first)
    (calls : List Call) :
    (∀ piece ∈ written calls first, ∀ target ∈ piece.targets,
      Resolves (afterAll calls first).components target.1 target.2) ∧
    ∀ piece ∈ (afterAll calls first).pieces, piece ∈ written calls first ∨
      piece ∈ template.pieces ∧
        ∀ target ∈ piece.targets, Refers (afterAll calls first).components target.2 := by
  obtain ⟨hwritten, hextends⟩ := allResolve_afterAll hshared hstart calls
  refine ⟨hwritten, fun piece hm => (mem_pieces_afterAll hm).imp_right fun hold => ?_⟩
  rw [(start_ok hstart).1] at hold
  exact ⟨hold, fun target ht => (hown piece hold target ht).mono hextends⟩

/-- A method whose body has an object in it. -/
def accountMethod : Method where
  schema := .object [("properties", .object [("body", .object [("properties",
    .object [("address", .object [("type", .string "object")])])])])]
  notes := some { responses := some [("201", { schema := some (.object []) })] }

def accountRoute : Route := { path := "/accounts", methods := [("POST", accountMethod)] }

theorem references_resolve_account : ∃ first,
    start Template.base "default" "v1" {} .fail = .ok first ∧
      Resolves (afterAll [.addRoute accountRoute] first).components .schemas
        "#/components/schemas/accounts.post.body" := by
  obtain ⟨first, hstart⟩ : ∃ first, start Template.base "default" "v1" {} .fail = .ok first :=
    ⟨_, rfl⟩
  refine ⟨first, hstart, ?_⟩
  have hown : ∀ piece ∈ Template.base.pieces, ∀ target ∈ piece.targets,
      Refers Template.base.components target.2 := by
    intro piece hm target ht
    rw [List.mem_singleton.mp hm] at ht
    cases ht
  obtain ⟨hwritten, horigin⟩ := references_resolve (by decide) hown hstart [.addRoute accountRoute]
  cases hstart
  have hpiece := horigin
    (.operation "/accounts" "post" (builtOperation "/accounts" "POST" accountMethod))
    (List.mem_append_right _ (List.mem_singleton.mpr rfl))
  refine hwritten _ (hpiece.resolve_right fun h => ?_) (.schemas, _)
    (List.mem_append_left _ (List.mem_singleton.mpr rfl))
  cases List.mem_singleton.mp h.1

end Document
end RouteDoc
