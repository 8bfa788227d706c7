import RouteDoc.Check.Structure
import RouteDoc.Proofs.Check.Occurrence
import RouteDoc.Proofs.Schema.Place

namespace RouteDoc.Check

open Json (Locates follow)
open Json.Pointer (append_eq_child child encode ofPath read? read?_ofPath)

section Steps

variable {document owner inner : Json} {location : String}

/-- The parameters of an operation or of a path, by index. -/
theorem locates_parameter {parameters : List Json} {index : Nat}
    (h : Locates document location owner) (hg : owner.get? "parameters" = some (.array parameters))
    (hm : (inner, index) ∈ parameters.zipIdx) :
    Locates document (location ++ "/parameters/" ++ toString index) inner := by
  have hlist : Locates document (location ++ "/parameters") (.array parameters) :=
    h.get? hg (append_eq_child location (by decide))
  have hslash : location ++ "/parameters/" = location ++ "/parameters" ++ "/" := by
    rw [String.append_assoc]
    rfl
  rw [hslash]
  exact hlist.item hm

theorem exists_parameters {index : Nat}
    (h : (inner, index) ∈ (((owner.get? "parameters").bind Json.asArray?).getD []).zipIdx) :
    ∃ parameters, owner.get? "parameters" = some (.array parameters) ∧
      (inner, index) ∈ parameters.zipIdx := by
  cases hg : owner.get? "parameters" with
  | none => simp [hg] at h
  | some value =>
    rw [hg, Option.bind_some] at h
    cases value with
    | array parameters => exact ⟨parameters, rfl, h⟩
    | _ => simp [Json.asArray?] at h

theorem encode_method : ∀ method ∈ httpMethods, encode method = method := by decide

/-- An operation of a path. -/
theorem locates_operation {item operation : Json} {path method : String}
    (hp : (path, item) ∈ document.entriesAt "paths") (hm : method ∈ httpMethods)
    (hg : item.get? method = some operation) :
    Locates document (child "/paths" path ++ "/" ++ method) operation := by
  have hitem : Locates document (child "/paths" path) item :=
    (Locates.root document).entry hp (by decide)
  have hstep : child (child "/paths" path) method =
      child "/paths" path ++ "/" ++ encode method := rfl
  refine hitem.get? hg ?_
  rw [hstep, encode_method method hm]

end Steps

section Slots

variable {document owner : Json} {location : String} {slot : String × Json}

theorem locates_schemaSlot (h : Locates document location owner)
    (hs : slot ∈ schemaSlot location owner) : Locates document slot.1 slot.2 := by
  unfold schemaSlot at hs
  split at hs
  · rename_i schema hg
    rw [List.mem_singleton.mp hs]
    exact h.get? hg (append_eq_child location (by decide))
  · cases hs

theorem locates_contentSlots (h : Locates document location owner)
    (hs : slot ∈ contentSlots location owner) : Locates document slot.1 slot.2 := by
  obtain ⟨⟨mediaType, media⟩, hm, hs⟩ := List.mem_flatMap.mp hs
  exact locates_schemaSlot (h.entry hm (append_eq_child location (by decide))) hs

theorem locates_parameterSlots (h : Locates document location owner)
    (hs : slot ∈ parameterSlots location owner) : Locates document slot.1 slot.2 := by
  obtain ⟨⟨parameter, index⟩, hm, hs⟩ := List.mem_flatMap.mp hs
  obtain ⟨parameters, hg, hm⟩ := exists_parameters hm
  exact locates_schemaSlot (locates_parameter h hg hm) hs

theorem locates_operationSlots (h : Locates document location owner)
    (hs : slot ∈ operationSlots location owner) : Locates document slot.1 slot.2 := by
  unfold operationSlots at hs
  rcases List.mem_append.mp hs with hs | hs
  · rcases List.mem_append.mp hs with hs | hs
    · exact locates_parameterSlots h hs
    · split at hs
      · rename_i body hg
        exact locates_contentSlots (h.get? hg (append_eq_child location (by decide))) hs
      · cases hs
  · obtain ⟨⟨status, response⟩, hm, hs⟩ := List.mem_flatMap.mp hs
    exact locates_contentSlots (h.entry hm (append_eq_child location (by decide))) hs

theorem locates_pathSlots {path : String} {item : Json}
    (hp : (path, item) ∈ document.entriesAt "paths") (hs : slot ∈ pathSlots path item) :
    Locates document slot.1 slot.2 := by
  have hitem : Locates document (child "/paths" path) item :=
    (Locates.root document).entry hp (by decide)
  rcases List.mem_append.mp hs with hs | hs
  · exact locates_parameterSlots hitem hs
  · obtain ⟨method, hm, hs⟩ := List.mem_flatMap.mp hs
    split at hs
    · rename_i operation hg
      exact locates_operationSlots (locates_operation hp hm hg) hs
    · cases hs

theorem locates_componentSlots {components : Json}
    (h : Locates document "/components" components) (hs : slot ∈ componentSlots components) :
    Locates document slot.1 slot.2 := by
  unfold componentSlots at hs
  rcases List.mem_append.mp hs with hs | hs
  · rcases List.mem_append.mp hs with hs | hs
    · obtain ⟨⟨name, schema⟩, hm, rfl⟩ := List.mem_map.mp hs
      exact h.entry hm (by decide)
    · obtain ⟨place, hplace, hs⟩ := List.mem_flatMap.mp hs
      obtain ⟨⟨name, owner⟩, hm, hs⟩ := List.mem_flatMap.mp hs
      have hchild : ∀ place ∈ ["responses", "requestBodies"],
          "/components/" ++ place = child "/components" place := by decide
      exact locates_contentSlots (h.entry hm (hchild place hplace)) hs
  · obtain ⟨⟨name, parameter⟩, hm, hs⟩ := List.mem_flatMap.mp hs
    exact locates_schemaSlot (h.entry hm (by decide)) hs

/-- Each slot is listed with the pointer that leads to its schema. -/
theorem locates_schemaSlots (hs : slot ∈ schemaSlots document) :
    Locates document slot.1 slot.2 := by
  unfold schemaSlots at hs
  rcases List.mem_append.mp hs with hs | hs
  · split at hs
    · rename_i components hg
      exact locates_componentSlots ((Locates.root document).get? hg (by decide)) hs
    · cases hs
  · obtain ⟨⟨path, item⟩, hp, hs⟩ := List.mem_flatMap.mp hs
    exact locates_pathSlots hp hs

end Slots

/-- Each reference is listed with the pointer that leads to its text. -/
theorem locates_referencesAt {document value : Json} {location : String}
    {found : String × String} (h : Locates document location value)
    (hf : found ∈ referencesAt location value) :
    Locates document found.1 (.string found.2) := by
  obtain ⟨path, hplace, _, _, _, hl⟩ := (mem_referencesAt_iff value location found).mp hf
  rw [hplace, Json.Pointer.foldl_child]
  exact h.append hl

/-- The pointer leads to a value, or to a member that could stand in one. -/
inductive Marks (document : Json) : String → Prop
  | value {pointer : String} {value : Json} : Locates document pointer value →
      Marks document pointer
  | member {pointer key : String} {owner : Json} : Locates document pointer owner →
      Marks document (child pointer key)

/-- The text is a pointer, and it leads somewhere or does so without its last segment. -/
def PointsInto (document : Json) (pointer : String) : Prop :=
  ∃ path, read? pointer = some path ∧
    ((follow path document).isSome ∨ (follow path.dropLast document).isSome)

theorem Marks.pointsInto {document : Json} {pointer : String} (hd : document.distinct = true)
    (h : Marks document pointer) : PointsInto document pointer := by
  cases h with
  | value hl =>
    obtain ⟨path, rfl, hp⟩ := hl
    refine ⟨path, read?_ofPath path, .inl ?_⟩
    rw [Json.follow_of_leadsTo hd hp]
    rfl
  | @member _ key owner hl =>
    obtain ⟨path, rfl, hp⟩ := hl
    refine ⟨path ++ [key], ?_, .inr ?_⟩
    · rw [← Json.Pointer.ofPath_concat, read?_ofPath]
    · rw [List.dropLast_concat, Json.follow_of_leadsTo hd hp]
      rfl

section Findings

variable {document : Json} {issue : Issue}

theorem marks_version (h : issue ∈ versionIssues document) : Marks document issue.path := by
  have hpath : issue.path = child "" "openapi" := by
    have hopenapi : child "" "openapi" = "/openapi" := by decide
    unfold versionIssues at h
    split at h
    · split at h
      · cases h
      · rw [List.mem_singleton.mp h, hopenapi]
    · rw [List.mem_singleton.mp h, hopenapi]
  rw [hpath]
  exact .member (.root document)

theorem marks_info (h : issue ∈ infoIssues document) : Marks document issue.path := by
  unfold infoIssues at h
  split at h
  · rename_i info hg
    obtain ⟨field, hf, rfl⟩ := List.mem_map.mp h
    have hinfo : Locates document "/info" (.object info) :=
      (Locates.root document).get? hg (by decide)
    have hfield : ∀ field ∈ ["title", "version"], "/info/" ++ field = child "/info" field := by
      decide
    rw [hfield field (List.mem_filter.mp hf).1]
    exact .member hinfo
  · have hinfo : "/info" = child "" "info" := by decide
    rw [List.mem_singleton.mp h]
    exact hinfo ▸ .member (.root document)

theorem marks_servers (h : issue ∈ serversIssues document) : Marks document issue.path := by
  unfold serversIssues at h
  split at h
  · cases h
  · rename_i servers hg
    obtain ⟨⟨server, index⟩, hm, h⟩ := List.mem_flatMap.mp h
    have hservers : Locates document "/servers" (.array servers) :=
      (Locates.root document).get? hg (by decide)
    have hpath : issue.path = child ("/servers" ++ "/" ++ toString index) "url" := by
      have hurl : "/servers/" ++ toString index ++ "/url" =
          child ("/servers" ++ "/" ++ toString index) "url" :=
        append_eq_child _ (by decide)
      simp only [serverIssues] at h
      split at h
      · split at h
        · cases h
        · rw [List.mem_singleton.mp h]
          exact hurl
      · rw [List.mem_singleton.mp h]
        exact hurl
    rw [hpath]
    exact .member (hservers.item hm)
  · rename_i value hg
    rw [List.mem_singleton.mp h]
    exact .value ((Locates.root document).get? hg (by decide))

/-- A finding about a slot stands in the schema of the slot. -/
theorem marks_schemas (h : issue ∈ schemaIssues document) : Marks document issue.path := by
  obtain ⟨⟨location, schema⟩, hs, h⟩ := List.mem_flatMap.mp h
  have hslot : Locates document location schema := locates_schemaSlots hs
  simp only [slotIssues] at h
  split at h
  · cases h
  · obtain ⟨finding, hf, rfl⟩ := List.mem_map.mp h
    obtain ⟨inner, hinner⟩ := Schema.Definitions.placed _ _ _ _ _ finding hf
    exact .value (hslot.append hinner)

theorem marks_references (h : issue ∈ referenceIssues document) : Marks document issue.path := by
  obtain ⟨⟨location, target⟩, hf, rfl⟩ := List.mem_map.mp h
  have hmet : (location, target) ∈ referencesAt "" document := (List.mem_filter.mp hf).1
  exact .value (locates_referencesAt (.root document) hmet)

theorem marks_pathParameters {location : String} {named : List String} {operation : Json}
    (ho : Locates document location operation)
    (h : issue ∈ pathParameterIssues location named operation) : Marks document issue.path := by
  simp only [pathParameterIssues] at h
  rcases List.mem_append.mp h with h | h
  · obtain ⟨⟨parameter, index⟩, hm, hi⟩ := List.mem_filterMap.mp h
    obtain ⟨parameters, hg, hm⟩ := exists_parameters hm
    dsimp only at hi
    split at hi
    · cases hi
      exact .value (locates_parameter ho hg hm)
    · cases hi
  · obtain ⟨name, _, rfl⟩ := List.mem_map.mp h
    have hplain : "/parameters" = "/" ++ encode "parameters" := by decide
    rw [append_eq_child location hplain]
    exact .member ho

theorem marks_operations (h : issue ∈ operationsIssues document) : Marks document issue.path := by
  obtain ⟨⟨path, item⟩, hp, h⟩ := List.mem_flatMap.mp h
  obtain ⟨method, hm, h⟩ := List.mem_flatMap.mp h
  split at h
  · rename_i operation hg
    have ho := locates_operation hp hm hg
    rcases List.mem_append.mp h with h | h
    · split at h
      · have hplain : "/responses" = "/" ++ encode "responses" := by decide
        rw [List.mem_singleton.mp h, append_eq_child _ hplain]
        exact .member ho
      · cases h
    · exact marks_pathParameters ho h
  · cases h

/-- A refused component key that a pointer would have to escape, and the pointer that is put
together without escapes. -/
structure UnescapedKey (document : Json) (place key pointer : String) : Prop where
  stands : (follow ["components", place, key] document).isSome
  refused : isComponentKey key = false
  special : ¬(encode place = place ∧ encode key = key)
  pointer_eq : pointer = "/components/" ++ place ++ "/" ++ key

theorem leadsTo_of_mem_keyIssues {components : Entries Json}
    (hg : document.get? "components" = some (.object components))
    (h : issue ∈ keyIssues components) : ∃ place key value,
      document.LeadsTo ["components", place, key] value ∧ isComponentKey key = false ∧
        issue.path = "/components/" ++ place ++ "/" ++ key := by
  obtain ⟨⟨place, entries⟩, hplace, h⟩ := List.mem_flatMap.mp h
  dsimp only at h
  split at h
  · cases h
  · obtain ⟨key, hk, rfl⟩ := List.mem_map.mp h
    obtain ⟨hmem, hrefused⟩ := List.mem_filter.mp hk
    cases entries with
    | object entries =>
      obtain ⟨⟨name, value⟩, hentry, rfl⟩ := List.mem_map.mp hmem
      refine ⟨place, name, value, ?_, by simpa using hrefused, rfl⟩
      cases document with
      | object members =>
        have hcomponents := Entries.mem_of_get? hg
        exact .member hcomponents (.member hplace (.member hentry (.here value)))
      | _ => cases hg
    | _ => cases hmem

/-- A finding about a key stands at the key, unless its pointer lacks escapes. -/
theorem marks_key (hd : document.distinct = true) {components : Entries Json}
    (hg : document.get? "components" = some (.object components))
    (h : issue ∈ keyIssues components) :
    Marks document issue.path ∨ ∃ place key, UnescapedKey document place key issue.path := by
  obtain ⟨place, key, value, hl, hrefused, hpath⟩ := leadsTo_of_mem_keyIssues hg h
  by_cases hplain : encode place = place ∧ encode key = key
  · have hpointer : issue.path = ofPath ["components", place, key] := by
      have hcomponents : child "" "components" = "/components" := by decide
      rw [hpath, ofPath, List.foldl_cons, List.foldl_cons, List.foldl_cons, List.foldl_nil,
        hcomponents, child, child, hplain.1, hplain.2]
      rfl
    exact .inl (.value ⟨_, hpointer, hl⟩)
  · refine .inr ⟨place, key, ?_, hrefused, hplain, hpath⟩
    rw [Json.follow_of_leadsTo hd hl]
    rfl

theorem marks_components (hd : document.distinct = true) (h : issue ∈ componentsIssues document) :
    Marks document issue.path ∨ ∃ place key, UnescapedKey document place key issue.path := by
  have hroot : "/components" = child "" "components" := by decide
  unfold componentsIssues at h
  split at h
  · cases h
  · rename_i components hg
    rcases List.mem_append.mp h with h | h
    · exact marks_key hd hg h
    · obtain ⟨problem, _, rfl⟩ := Option.map_eq_some_iff.mp (Option.mem_toList.mp h)
      exact .inl (.value ((Locates.root document).get? hg hroot))
  · rename_i value hg
    rw [List.mem_singleton.mp h]
    exact .inl (.value ((Locates.root document).get? hg hroot))

/-- Every finding points to a value of the document, or to a member that could stand there. The one
exception is a finding about a component key with a tilde or a slash in it or in its section. -/
theorem issue_pointsInto (hd : document.distinct = true) (h : issue ∈ structural document) :
    PointsInto document issue.path ∨ ∃ place key, UnescapedKey document place key issue.path := by
  have hmarks : Marks document issue.path ∨
      ∃ place key, UnescapedKey document place key issue.path := by
    cases document with
    | object members =>
      simp only [structural, List.mem_append] at h
      rcases h with (((((h | h) | h) | h) | h) | h) | h
      · exact .inl (marks_version h)
      · exact .inl (marks_info h)
      · exact .inl (marks_servers h)
      · exact marks_components hd h
      · exact .inl (marks_schemas h)
      · exact .inl (marks_references h)
      · exact .inl (marks_operations h)
    | _ =>
      rw [List.mem_singleton.mp h]
      exact .inl (.value (.root _))
  exact hmarks.imp_left (Marks.pointsInto hd)

/-- An operation without responses at a path with slashes and braces. -/
def accountsDocument : Json := .object [
  ("openapi", .string "3.0.0"),
  ("info", .object [("title", .string "Accounts"), ("version", .string "1.0.0")]),
  ("paths", .object [("/accounts/{id}", .object [("get", .object [("parameters", .array [
    .object [("name", .string "id"), ("in", .string "path"), ("required", .bool true)]])])])])]

theorem issue_pointsInto_accounts :
    accountsDocument.distinct = true ∧
    ⟨"/paths/~1accounts~1{id}/get/responses", "operation must define at least one response"⟩ ∈
      structural accountsDocument ∧
    (PointsInto accountsDocument "/paths/~1accounts~1{id}/get/responses" ∨
      ∃ place key, UnescapedKey accountsDocument place key
        "/paths/~1accounts~1{id}/get/responses") := by
  have hd : accountsDocument.distinct = true := by decide
  have hm : ⟨"/paths/~1accounts~1{id}/get/responses",
      "operation must define at least one response"⟩ ∈ structural accountsDocument := by
    decide +kernel
  exact ⟨hd, hm, issue_pointsInto hd hm⟩

/-- A component whose name has a slash. -/
def slashDocument : Json := .object [
  ("openapi", .string "3.0.0"),
  ("info", .object [("title", .string "Orders"), ("version", .string "1.0.0")]),
  ("paths", .object []),
  ("components", .object [("schemas", .object [
    ("order/item", .object [("type", .string "object")])])])]

/-- The finding about its name points to a member of a component that is not there. -/
theorem issue_not_pointsInto_slash :
    slashDocument.distinct = true ∧
    ⟨"/components/schemas/order/item",
      "component key 'order/item' must match ^[a-zA-Z0-9._-]+$"⟩ ∈ structural slashDocument ∧
    ¬PointsInto slashDocument "/components/schemas/order/item" := by
  refine ⟨by decide, by decide +kernel, ?_⟩
  rintro ⟨path, hread, hfollow⟩
  have hpath : some path = some ["components", "schemas", "order", "item"] := by
    rw [← hread]
    decide +kernel
  rw [Option.some.inj hpath] at hfollow
  revert hfollow
  decide +kernel

end Findings

end RouteDoc.Check
