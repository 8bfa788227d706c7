import RouteDoc.Proofs.Document.Call

namespace RouteDoc

open Component
open Operation (Route)

/-- A known key keeps its place and a new one goes last. -/
theorem Entries.keys_prefix_insert {α : Type} (key : String) (value : α) (entries : Entries α) :
    entries.keys <+: (entries.insert key value).keys := by
  rw [keys_insert_eq_withNew]
  exact List.prefix_append _ _

namespace Component.Registry

theorem keys_prefix_put (registry : Registry) (place other : Section) (name : String)
    (value : Json) :
    (registry.entries other).keys <+: ((registry.put place name value).entries other).keys := by
  cases place <;> cases other
  case schemas.schemas => exact Entries.keys_prefix_insert ..
  case responses.responses => exact Entries.keys_prefix_insert ..
  all_goals exact List.prefix_refl _

end Component.Registry

namespace Document

/-- What an earlier state of a document says of a later one. -/
structure Grows (old new : Document) : Prop where
  frame : SameFrame old new
  policy : new.components.policy = old.components.policy
  names (place : Section) :
    (old.components.entries place).keys <+: (new.components.entries place).keys
  paths : old.paths.keys <+: new.paths.keys
  methods (path : String) (item : PathItem) : old.paths.get? path = some item →
    ∃ later, new.paths.get? path = some later ∧ item.keys <+: later.keys
  fixed : old.components.policy = .fail → ∀ place name value,
    old.components.get? place name = some value → new.components.get? place name = some value

namespace Grows

variable {first second third : Document}

theorem refl (document : Document) : Grows document document where
  frame := .refl document
  policy := rfl
  names _ := List.prefix_refl _
  paths := List.prefix_refl _
  methods _ item h := ⟨item, h, List.prefix_refl _⟩
  fixed _ _ _ _ h := h

theorem trans (hf : Grows first second) (hs : Grows second third) : Grows first third where
  frame := hf.frame.trans hs.frame
  policy := hs.policy.trans hf.policy
  names place := (hf.names place).trans (hs.names place)
  paths := hf.paths.trans hs.paths
  methods path item h := by
    obtain ⟨later, hl, hfirst⟩ := hf.methods path item h
    obtain ⟨last, hlast, hsecond⟩ := hs.methods path later hl
    exact ⟨last, hlast, hfirst.trans hsecond⟩
  fixed hp place name value h :=
    hs.fixed (hf.policy.trans hp) place name value (hf.fixed hp place name value h)

end Grows

/-- One piece at a time: a component takes its name's place or goes last, an operation likewise in
the item of its path. -/
theorem grows_write {piece : Piece} {document next : Document}
    (h : piece.write document = .ok next) : Grows document next := by
  have hframe := sameFrame_write h
  cases piece with
  | component entry =>
    rw [Piece.write] at h
    split at h
    · rename_i components ha
      cases h
      obtain ⟨hfree, noted, rfl⟩ := Registry.add_ok ha
      refine ⟨hframe, Registry.policy_put .., fun place => Registry.keys_prefix_put ..,
        List.prefix_refl _, fun path item hi => ⟨item, hi, List.prefix_refl _⟩, ?_⟩
      intro hp place name value hg
      rw [Registry.get?_add ha]
      split
      · rename_i he
        have hnone := hfree hp
        rw [he.1, he.2, hg] at hnone
        cases hnone
      · exact hg
    · cases h
  | operation path key value =>
    cases h
    refine ⟨hframe, rfl, fun place => List.prefix_refl _, Entries.keys_prefix_insert ..,
      fun other item hi => ?_, fun _ _ _ _ hg => hg⟩
    rw [Entries.get?_insert]
    split
    · rename_i he
      subst he
      rw [hi, Option.getD_some]
      exact ⟨_, rfl, Entries.keys_prefix_insert key value item⟩
    · exact ⟨item, hi, List.prefix_refl _⟩

/-- A refused piece ends the writing and leaves what was written before it. -/
theorem grows_writeAll (list : List Piece) (document : Document) :
    Grows document (Piece.writeAll list document).2 := by
  induction list generalizing document with
  | nil => exact .refl document
  | cons piece rest ih =>
    rw [Piece.writeAll]
    cases hw : piece.write document with
    | error fault => exact .refl document
    | ok next => exact (grows_write hw).trans (ih next)

theorem grows_afterAll (calls : List Call) (document : Document) :
    Grows document (afterAll calls document) :=
  preserved_afterAll (fun list _ hg => hg.trans (grows_writeAll list _)) calls (.refl document)

/-- The new document has the policy it is given and one server, that of its environment with the
module at its end. -/
theorem policy_servers_start {template : Template} {environment module : String}
    {metadata : Metadata} {policy : Policy} {first : Document}
    (h : start template environment module metadata policy = .ok first) :
    first.components.policy = policy ∧ ∃ server, template.server? environment = some server ∧
      first.servers = [{ server with url := server.url ++ module }] := by
  rw [start] at h
  split at h
  · cases h
  · rename_i server hs
    cases h
    exact ⟨rfl, server, hs, rfl⟩

/-- Of two states that calls lead through, failed calls among them, the later one has every name,
path and method of the earlier one in the same order and new ones behind them. Nothing else of the
document changes, its one server included, and under the failing policy no component does. -/
theorem grows_between {template : Template} {environment module : String} {metadata : Metadata}
    {policy : Policy} {first : Document}
    (hstart : start template environment module metadata policy = .ok first)
    (earlier later : List Call) :
    let old := afterAll earlier first
    let new := afterAll later old
    Grows old new ∧ old.components.policy = policy ∧
      ∃ server, template.server? environment = some server ∧
        old.servers = [{ server with url := server.url ++ module }] ∧
        new.servers = [{ server with url := server.url ++ module }] := by
  obtain ⟨hpolicy, server, hserver, hservers⟩ := policy_servers_start hstart
  have hold := grows_afterAll earlier first
  have hnew := grows_afterAll later (afterAll earlier first)
  have hearlier := hold.frame.servers.trans hservers
  exact ⟨hnew, hold.policy.trans hpolicy, server, hserver, hearlier,
    hnew.frame.servers.trans hearlier⟩

def notesRoute (method : String) : Route :=
  { path := "/notes", methods := [(method, { schema := .object [("properties", .object [("body",
    .object [("type", .string "object")])])] })] }

/-- The second state follows a call that fails, as the body of the first route is registered. -/
theorem grows_between_notes : ∃ first,
    start Template.base "staging" "desk" {} .fail = .ok first ∧
      let old := afterAll [.addRoute (notesRoute "PUT")] first
      let new := afterAll [.addRoutes [notesRoute "put"], .addRoute (notesRoute "get")] old
      Grows old new ∧ old.components.policy = .fail ∧
        new.components.schemas.keys = ["notes.put.body", "notes.get.body"] := by
  obtain ⟨first, hstart⟩ : ∃ first,
      start Template.base "staging" "desk" {} .fail = .ok first := ⟨_, rfl⟩
  obtain ⟨hgrows, hpolicy, _⟩ := grows_between hstart [.addRoute (notesRoute "PUT")]
    [.addRoutes [notesRoute "put"], .addRoute (notesRoute "get")]
  refine ⟨first, hstart, hgrows, hpolicy, ?_⟩
  cases hstart
  decide +kernel

end Document
end RouteDoc
