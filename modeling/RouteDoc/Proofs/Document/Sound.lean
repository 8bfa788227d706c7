import RouteDoc.Proofs.Document.Clean
import RouteDoc.Proofs.Document.References

namespace RouteDoc.Document

open Component
open Check (NoFindings RefersOnly)
open Piece (Clean)

theorem component_mem_pieces {document : Document} {place : Section} {entry : String × Json}
    (he : entry ∈ document.components.entries place) :
    .component ⟨place, entry.1, entry.2⟩ ∈ document.pieces :=
  Piece.mem_all.mpr (Or.inl ⟨place, List.mem_map_of_mem he⟩)

theorem operation_mem_pieces {document : Document} {path key : String} {item : PathItem}
    {value : Operation} (hi : (path, item) ∈ document.paths) (ho : (key, value) ∈ item) :
    .operation path key value ∈ document.pieces :=
  Piece.mem_all.mpr (Or.inr (Piece.mem_ofPaths.mpr ⟨item, hi, ho⟩))

/-- The check of references finds an entry for this one. -/
def Leads (document : Document) (target : String) : Prop :=
  Check.resolves (some document.components.toJson) target

/-- A document of clean pieces whose references resolve, with nothing else in it that a check could
find fault with. -/
structure Sound (document : Document) : Prop where
  version : document.openapi = "3.0.0"
  title : document.info.title.isSome
  info : document.info.extra = []
  servers : ∀ server ∈ document.servers,
    Check.ServerUrl.isValid server.url ∧ server.extra = []
  clean : ∀ piece ∈ document.pieces, Clean piece
  resolves : ∀ piece ∈ document.pieces, ∀ target ∈ piece.targets,
    Resolves document.components target.1 target.2
  extra : document.components.extra = []
  extensions : document.extensions = []

namespace Sound

variable {document : Document}

theorem component (h : document.Sound) (place : Section) {entry : String × Json}
    (he : entry ∈ document.components.entries place) :
    Clean (.component ⟨place, entry.1, entry.2⟩) :=
  h.clean _ (component_mem_pieces he)

theorem operation (h : document.Sound) {path key : String} {item : PathItem} {value : Operation}
    (hi : (path, item) ∈ document.paths) (ho : (key, value) ∈ item) :
    Clean (.operation path key value) :=
  h.clean _ (operation_mem_pieces hi ho)

/-- Every name among the components is a component key. -/
theorem isComponentKey (h : document.Sound) {place : Section} {entry : String × Json}
    (he : entry ∈ document.components.entries place) : Check.isComponentKey entry.1 := by
  cases place
  · cases h.component .schemas he with
    | schema hk _ _ => exact hk
  · cases h.component .responses he with
    | response hk _ _ => exact hk

theorem components_toJson (h : document.Sound) : document.components.toJson =
    .object [("schemas", .object document.components.schemas),
      ("responses", .object document.components.responses)] := by
  rw [Registry.toJson, h.extra]
  rfl

theorem keyIssues (h : document.Sound) : Check.keyIssues [
    ("schemas", .object document.components.schemas),
    ("responses", .object document.components.responses)] = [] := by
  have hkeys : ∀ place : Section, ((document.components.entries place).keys.filter
      fun key => !Check.isComponentKey key) = [] := by
    intro place
    refine List.filter_eq_nil_iff.mpr fun key hm => ?_
    obtain ⟨entry, he, rfl⟩ := List.mem_map.mp hm
    simp [h.isComponentKey he]
  refine List.flatMap_eq_nil_iff.mpr fun entry hm => ?_
  rcases List.mem_cons.mp hm with rfl | hm
  · exact ite_eq_left_iff.mpr fun _ => List.map_eq_nil_iff.mpr (hkeys .schemas)
  · rw [List.mem_singleton.mp hm]
    exact ite_eq_left_iff.mpr fun _ => List.map_eq_nil_iff.mpr (hkeys .responses)

theorem noFindings_components (h : document.Sound) :
    NoFindings (Check.componentSlots document.components.toJson) := by
  rw [h.components_toJson]
  refine .append (.append ?_ (.flatMap fun place hp => ?_)) (fun _ hm => nomatch hm)
  · intro slot hm
    obtain ⟨entry, he, rfl⟩ := List.mem_map.mp hm
    have hclean := h.component .schemas he
    cases hclean with
    | schema _ hs _ => exact Check.slotIssues_of_check hs
  · rcases List.mem_cons.mp hp with rfl | hp
    · refine .flatMap fun entry he => ?_
      have hclean := h.component .responses he
      cases hclean with
      | response _ hs _ => exact hs _
    · rw [List.mem_singleton.mp hp]
      exact fun _ hm => nomatch hm

/-- The operations that a check meets in a path item are those of the document. -/
theorem get?_item {item : PathItem} {key : String} {value : Json}
    (hv : item.toJson.get? key = some value) : ∃ operation, (key, operation) ∈ item ∧
      value = operation.toJson := by
  have hmap := (Entries.get?_map Operation.toJson key item).symm.trans hv
  obtain ⟨operation, ho, rfl⟩ := Option.map_eq_some_iff.mp hmap
  exact ⟨operation, Entries.mem_of_get? ho, rfl⟩

theorem noFindings_paths (h : document.Sound) {path : String} {item : PathItem}
    (hi : (path, item) ∈ document.paths) : NoFindings (Check.pathSlots path item.toJson) := by
  refine .append ?_ (.flatMap fun key _ => ?_)
  · cases hg : item.toJson.get? "parameters" with
    | none =>
      unfold Check.parameterSlots
      rw [hg]
      exact fun _ hm => nomatch hm
    | some value =>
      obtain ⟨operation, ho, rfl⟩ := get?_item hg
      cases h.operation hi ho with
      | operation hk _ _ _ => exact absurd hk (by decide)
  · cases hg : item.toJson.get? key with
    | none => exact fun _ hm => nomatch hm
    | some value =>
      obtain ⟨operation, ho, rfl⟩ := get?_item hg
      cases h.operation hi ho with
      | operation _ _ hs _ => exact hs _

/-- What a piece cites is an entry of the components. -/
theorem leads_of_cites (h : document.Sound) {piece : Piece} (hp : piece ∈ document.pieces)
    {target : String} (hc : piece.Cites target) : document.Leads target := by
  obtain ⟨place, ht⟩ := hc
  obtain ⟨name, _, hg, hk⟩ := h.resolves piece hp (place, target) ht
  obtain ⟨value, hv⟩ := Option.isSome_iff_exists.mp hg
  have hname := h.isComponentKey (Entries.mem_of_get? hv)
  rw [Leads, Check.resolves, hk hname, h.components_toJson]
  cases place <;> exact hg

theorem refersOnly_section (h : document.Sound) (place : Section) :
    RefersOnly document.Leads (.object (document.components.entries place)) := by
  refine .object fun entry he => ⟨?_, fun hkey => ?_⟩
  · have hp := component_mem_pieces he
    cases place
    · cases h.component .schemas he with
      | schema _ _ hr => exact hr.mono fun target hc => h.leads_of_cites hp hc
    · cases h.component .responses he with
      | response _ _ hr => exact hr.mono fun target hc => h.leads_of_cites hp hc
  · have hname := h.isComponentKey he
    rw [hkey] at hname
    exact absurd hname (by decide)

theorem refersOnly_item (h : document.Sound) {path : String} {item : PathItem}
    (hi : (path, item) ∈ document.paths) : RefersOnly document.Leads item.toJson := by
  refine .object (.of_not_isString fun entry hm => ?_)
  obtain ⟨⟨key, value⟩, ho, rfl⟩ := List.mem_map.mp hm
  have hp := operation_mem_pieces hi ho
  cases h.operation hi ho with
  | operation _ _ _ hr => exact ⟨hr.mono fun target hc => h.leads_of_cites hp hc, rfl⟩

/-- All references of the document lead to components. -/
theorem refersOnly_toJson (h : document.Sound) : RefersOnly document.Leads document.toJson := by
  have hinfo : RefersOnly document.Leads document.info.toJson := by
    rw [Info.toJson, h.info]
    have htexts : Check.MembersReferOnly document.Leads
        (Json.optionalString "title" document.info.title ++
          Json.optionalString "description" document.info.description) :=
      .append (.optionalString (by simp)) (.optionalString (by simp))
    exact .object (.append (.append htexts (.single (by simp) (.string _))) .nil)
  have hservers : RefersOnly document.Leads (.array (document.servers.map Server.toJson)) := by
    refine .array fun item hm => ?_
    obtain ⟨server, hs, rfl⟩ := List.mem_map.mp hm
    rw [Server.toJson, (h.servers server hs).2]
    have hurl : Check.MembersReferOnly document.Leads [("url", .string server.url)] :=
      .single (by simp) (.string _)
    exact .object (.append (.append hurl (.optionalString (by simp))) .nil)
  have hpaths : RefersOnly document.Leads (Json.ofEntries PathItem.toJson document.paths) := by
    refine .object (.of_not_isString fun entry hm => ?_)
    obtain ⟨⟨path, item⟩, hi, rfl⟩ := List.mem_map.mp hm
    exact ⟨h.refersOnly_item hi, rfl⟩
  have hcomponents : RefersOnly document.Leads document.components.toJson := by
    rw [h.components_toJson]
    exact .object (.append (.single (by simp) (h.refersOnly_section .schemas))
      (.single (by simp) (h.refersOnly_section .responses)))
  rw [toJson, h.extensions]
  refine .object (.append (.append (.single (by simp) (.string _)) ?_) .nil)
  exact .append (.single (by simp) hinfo) (.append (.single (by simp) hservers)
    (.append (.single (by simp) hpaths) (.single (by simp) hcomponents)))

theorem versionIssues (h : document.Sound) : Check.versionIssues document.toJson = [] := by
  have hget : (document.toJson.get? "openapi").bind Json.asString? = some document.openapi := rfl
  rw [Check.versionIssues, hget, h.version]
  simp

theorem infoIssues (h : document.Sound) : Check.infoIssues document.toJson = [] := by
  obtain ⟨title, ht⟩ := Option.isSome_iff_exists.mp h.title
  have hget : document.toJson.get? "info" = some document.info.toJson := rfl
  rw [Check.infoIssues, hget, Info.toJson, ht]
  cases document.info.description <;> rfl

theorem serversIssues (h : document.Sound) : Check.serversIssues document.toJson = [] := by
  refine List.flatMap_eq_nil_iff.mpr fun ⟨item, index⟩ hm => ?_
  obtain ⟨server, hs, rfl⟩ := List.mem_map.mp (List.fst_mem_of_mem_zipIdx hm)
  have hget : (server.toJson.get? "url").bind Json.asString? = some server.url := rfl
  simp only [Check.serverIssues, hget, if_pos (h.servers server hs).1]

theorem componentsIssues (h : document.Sound) (hread : ∀ members,
      document.components.toJson = .object members → Check.Components.problem? members = none) :
    Check.componentsIssues document.toJson = [] := by
  have hget : document.toJson.get? "components" = some document.components.toJson := rfl
  rw [Check.componentsIssues, hget, h.components_toJson]
  dsimp only
  rw [h.keyIssues, hread _ h.components_toJson]
  rfl

theorem schemaIssues (h : document.Sound) : Check.schemaIssues document.toJson = [] := by
  have hslots : NoFindings (Check.schemaSlots document.toJson) := by
    refine .append h.noFindings_components (.flatMap fun entry hm => ?_)
    obtain ⟨⟨path, item⟩, hi, rfl⟩ := List.mem_map.mp hm
    exact h.noFindings_paths hi
  exact List.flatMap_eq_nil_iff.mpr fun slot hm => hslots slot hm

theorem referenceIssues (h : document.Sound) : Check.referenceIssues document.toJson = [] := by
  refine List.map_eq_nil_iff.mpr (List.filter_eq_nil_iff.mpr fun found hm => ?_)
  have hleads : Check.resolves (document.toJson.get? "components") found.2 :=
    h.refersOnly_toJson "" found hm
  simp [hleads]

theorem operationsIssues (h : document.Sound) : Check.operationsIssues document.toJson = [] := by
  refine List.flatMap_eq_nil_iff.mpr fun entry hm => List.flatMap_eq_nil_iff.mpr fun key _ => ?_
  obtain ⟨⟨path, item⟩, hi, rfl⟩ := List.mem_map.mp hm
  cases hg : item.toJson.get? key with
  | none => rfl
  | some value =>
    obtain ⟨operation, ho, rfl⟩ := get?_item hg
    cases h.operation hi ho with
    | operation _ hissues _ _ => exact hissues _

/-- No check finds anything, as long as the components can be read. -/
theorem structural (h : document.Sound) (hread : ∀ members,
      document.components.toJson = .object members → Check.Components.problem? members = none) :
    Check.structural document.toJson = [] := by
  change Check.versionIssues document.toJson ++ Check.infoIssues document.toJson ++
    Check.serversIssues document.toJson ++ Check.componentsIssues document.toJson ++
    Check.schemaIssues document.toJson ++ Check.referenceIssues document.toJson ++
    Check.operationsIssues document.toJson = []
  rw [h.versionIssues, h.infoIssues, h.serversIssues, h.componentsIssues hread, h.schemaIssues,
    h.referenceIssues, h.operationsIssues]
  rfl

end Sound

end RouteDoc.Document
