import RouteDoc.Proofs.Document.Grounded
import RouteDoc.Proofs.Operation.Admissible

namespace RouteDoc

open Check (RefersOnly slotIssues)
open Component
open Operation (Method Parameter Route DeclaredResponse)

namespace Check

theorem slotIssues_of_check {location : String} {schema : Json}
    (h : Schema.SchemaObject.check schema = []) : slotIssues location schema = [] := by
  unfold slotIssues
  rw [h]
  exact ite_self []

theorem slotIssues_reference (location : String) (reference : Operation.Reference) :
    slotIssues location reference.toJson = [] := rfl

/-- No schema in these slots has findings. -/
def NoFindings (slots : Slots) : Prop := ∀ slot ∈ slots, slotIssues slot.1 slot.2 = []

theorem NoFindings.append {first second : Slots} (hf : NoFindings first)
    (hs : NoFindings second) : NoFindings (first ++ second) :=
  fun slot hm => (List.mem_append.mp hm).elim (hf slot) (hs slot)

theorem NoFindings.flatMap {α : Type} {list : List α} {f : α → Slots}
    (h : ∀ element ∈ list, NoFindings (f element)) : NoFindings (list.flatMap f) := by
  intro slot hm
  obtain ⟨element, he, hs⟩ := List.mem_flatMap.mp hm
  exact h element he slot hs

/-- The slot of an owner whose schema has none. -/
theorem NoFindings.slot {location : String} {owner : Json}
    (h : ∀ schema ∈ owner.get? "schema", ∀ place, slotIssues place schema = []) :
    NoFindings (schemaSlot location owner) := by
  intro slot hm
  unfold schemaSlot at hm
  cases hg : owner.get? "schema" with
  | none => simp [hg] at hm
  | some schema =>
    simp only [hg] at hm
    rw [List.mem_singleton.mp hm]
    exact h schema hg _

/-- Content whose schemas are references is left to the check of references. -/
theorem noFindings_content {location : String} {owner : Json} (content : Operation.Content)
    (h : owner.entriesAt "content" = content.map fun (type, media) => (type, media.toJson)) :
    NoFindings (contentSlots location owner) := by
  unfold contentSlots
  rw [h]
  refine NoFindings.flatMap fun entry hm => ?_
  obtain ⟨⟨type, media⟩, _, rfl⟩ := List.mem_map.mp hm
  refine NoFindings.slot fun schema hs place => ?_
  cases hs
  exact slotIssues_reference place media.schema

end Check

/-- The reference stands in the piece. -/
def Piece.Cites (piece : Piece) (target : String) : Prop :=
  ∃ place, (place, target) ∈ piece.targets

namespace Operation

variable {P : String → Prop}

theorem refersOnly_reference {reference : Reference} (h : P reference.target) :
    RefersOnly P reference.toJson := .reference h

theorem refersOnly_content {content : Content} (h : ∀ entry ∈ content, P entry.2.schema.target) :
    RefersOnly P (Content.toJson content) := by
  refine .object (.of_not_isString fun entry hm => ?_)
  obtain ⟨named, hn, rfl⟩ := List.mem_map.mp hm
  exact ⟨.object (.single (by simp) (refersOnly_reference (h named hn))), rfl⟩

theorem refersOnly_requestBody {body : RequestBody}
    (h : ∀ entry ∈ body.content, P entry.2.schema.target) : RefersOnly P body.toJson := by
  have hcontent := refersOnly_content h
  refine .object (.append (.optional (by simp) fun value hv => ?_) (.single (by simp) hcontent))
  obtain ⟨required, _, rfl⟩ := Option.map_eq_some_iff.mp hv
  exact .bool required

/-- A parameter refers to nothing if its example does not. -/
theorem refersOnly_parameter {parameter : Parameter}
    (h : ∀ value ∈ parameter.schema.example?, RefersOnly P value) :
    RefersOnly P parameter.toJson := by
  have hschema : RefersOnly P parameter.schema.toJson :=
    .object (.append (.append (.append (.optionalString (by simp)) (.optional (by simp) h))
      (.optionalString (by simp))) (.optionalString (by simp)))
  have hplace : Check.MembersReferOnly P
      [("in", parameter.location.toJson), ("name", Json.string parameter.name)] :=
    .append (.single (by simp) (.string _)) (.single (by simp) (.string _))
  have hrequired : Check.MembersReferOnly P
      (Json.optional "required" (parameter.required.map Json.bool)) := by
    refine .optional (by simp) fun value hv => ?_
    obtain ⟨required, _, rfl⟩ := Option.map_eq_some_iff.mp hv
    exact .bool required
  exact .object (.append (.append (.append hplace (.optionalString (by simp))) hrequired)
    (.single (by simp) hschema))

/-- An operation refers to its body and its responses if its examples refer to nothing. -/
theorem refersOnly_operation {path key : String} {operation : Operation}
    (h : ∀ parameter ∈ operation.parameters, ∀ value ∈ parameter.schema.example?,
      Check.mentions "$ref" value = false) :
    RefersOnly (Piece.operation path key operation).Cites operation.toJson := by
  have hparameters : RefersOnly (Piece.operation path key operation).Cites
      (.array (operation.parameters.map Parameter.toJson)) := by
    refine .array fun value hm => ?_
    obtain ⟨parameter, hp, rfl⟩ := List.mem_map.mp hm
    refine refersOnly_parameter fun value hv => ?_
    exact Check.refersOnly_of_not_mentions (h parameter hp value hv)
  have hbody : ∀ value ∈ operation.requestBody.map RequestBody.toJson,
      RefersOnly (Piece.operation path key operation).Cites value := by
    intro value hv
    obtain ⟨body, hb, rfl⟩ := Option.map_eq_some_iff.mp hv
    refine refersOnly_requestBody fun entry he => ⟨.schemas, List.mem_append_left _ ?_⟩
    rw [hb]
    exact List.mem_map_of_mem (List.mem_map_of_mem he)
  have hresponses : RefersOnly (Piece.operation path key operation).Cites
      (Json.ofEntries Reference.toJson operation.responses) := by
    refine .object (.of_not_isString fun entry hm => ?_)
    obtain ⟨response, hr, rfl⟩ := List.mem_map.mp hm
    refine ⟨refersOnly_reference ⟨.responses, List.mem_append_right _ ?_⟩, rfl⟩
    exact List.mem_map.mpr ⟨response, hr, rfl⟩
  have hnotes : Check.MembersReferOnly (Piece.operation path key operation).Cites
      (Json.optionalString "summary" operation.summary ++
        Json.optionalString "description" operation.description) :=
    .append (.optionalString (by simp)) (.optionalString (by simp))
  exact .object (.append (.append (.append hnotes (.single (by simp) hparameters))
    (.optional (by simp) hbody)) (.single (by simp) hresponses))

theorem get?_schema (parameter : Parameter) :
    parameter.toJson.get? "schema" = some parameter.schema.toJson := by
  obtain ⟨location, name, description, required, schema⟩ := parameter
  cases description <;> cases required <;> rfl

theorem entriesAt_content (body : RequestBody) : body.toJson.entriesAt "content" =
    body.content.map fun (type, media) => (type, media.toJson) := by
  obtain ⟨required, content⟩ := body
  cases required <;> rfl

/-- The schemas of parameters with plain types have no findings, and all others are references. -/
theorem noFindings_operation {location : String} {operation : Operation}
    (h : ∀ parameter ∈ operation.parameters, ∀ key ∈ parameter.schema.type,
      key ∈ Schema.SchemaObject.typeKeys) :
    Check.NoFindings (Check.operationSlots location operation.toJson) := by
  refine .append (.append ?_ ?_) ?_
  · unfold Check.parameterSlots
    rw [get?_parameters]
    refine .flatMap fun ⟨value, index⟩ hm => ?_
    obtain ⟨parameter, hp, rfl⟩ := List.mem_map.mp (List.fst_mem_of_mem_zipIdx hm)
    refine .slot fun schema hs place => Check.slotIssues_of_check ?_
    rw [get?_schema] at hs
    cases hs
    exact Schema.SchemaObject.check_parameterSchema (h parameter hp)
  · rw [get?_requestBody]
    cases operation.requestBody with
    | none => exact fun slot hm => nomatch hm
    | some body => exact Check.noFindings_content body.content (entriesAt_content body)
  · rw [entriesAt_responses]
    refine .flatMap fun ⟨status, value⟩ hm => ?_
    obtain ⟨response, hr, he⟩ := List.mem_map.mp hm
    cases he
    exact fun slot hm => nomatch hm

end Operation

namespace Piece

open Document (bodyKey registrations builtOperation routePieces operationIssues_builtOperation)

/-- No check finds anything in the piece, provided that its references resolve. -/
inductive Clean : Piece → Prop
  | schema {name : String} {value : Json} : Check.isComponentKey name →
      Schema.SchemaObject.check value = [] →
      RefersOnly (component ⟨.schemas, name, value⟩).Cites value →
      Clean (component ⟨.schemas, name, value⟩)
  | response {name : String} {value : Json} : Check.isComponentKey name →
      (∀ location, Check.NoFindings (Check.contentSlots location value)) →
      RefersOnly (component ⟨.responses, name, value⟩).Cites value →
      Clean (component ⟨.responses, name, value⟩)
  | operation {path key : String} {value : Operation} : key ∈ Check.httpMethods →
      (∀ location,
        Check.operationIssues location (Check.templateParameters path) value.toJson = []) →
      (∀ location, Check.NoFindings (Check.operationSlots location value.toJson)) →
      RefersOnly (operation path key value).Cites value.toJson → Clean (operation path key value)

/-- A flat component of an object under a component key is clean. -/
theorem clean_objectOf {name : String} {names : List String} {properties : Entries Json}
    (hk : Check.isComponentKey name) (hn : names.Nodup)
    (hp : ∀ entry ∈ properties, Schema.SchemaObject.Flat entry.2) :
    Clean (component ⟨.schemas, name, Component.objectOf (names.map .string) properties⟩) := by
  refine .schema hk (Schema.SchemaObject.check_objectOf hn hp) ?_
  exact (Check.refersOnly_objectOf hp).mono fun target ht => ⟨.schemas, List.mem_map_of_mem ht⟩

theorem clean_cut {schema : Json} {home label : String} (hs : Publishable schema)
    (hh : IsKeyText home) (hl : IsKeyText label) :
    ∀ entry ∈ cut schema home label, Clean (component entry) := by
  intro entry hm
  obtain ⟨spot, hf, rfl⟩ := exists_fit_of_mem_cut hs hl hm
  obtain ⟨names, properties, hn, hp, hv⟩ := exists_flat_component home hf.node
  have hentry : spot.component home = ⟨.schemas, join home spot.label,
      objectOf (names.map .string) properties⟩ := by rw [← hv]; rfl
  rw [hentry]
  exact clean_objectOf (isComponentKey_join hh hf.label) hn hp

/-- A built response has at most the content that refers to the component of its schema. -/
theorem clean_responseComponent {name : String} (response : DeclaredResponse)
    (hk : Check.isComponentKey name) :
    Clean (component (Operation.responseComponent name response)) := by
  have hcites := targets_responseComponent name response
  obtain ⟨description, schema⟩ := response
  cases schema with
  | none =>
    refine .response hk (fun location => ?_) (.object (.append (.optionalString (by simp)) .nil))
    exact Check.noFindings_content [] (by cases description <;> rfl)
  | some schema =>
    refine .response hk (fun location => ?_) (.object (.append (.optionalString (by simp)) ?_))
    · let target := schemaReference name Operation.responseLabel
      refine Check.noFindings_content (Operation.jsonContent target) ?_
      cases description <;> rfl
    · refine .single (by simp) (Operation.refersOnly_content fun entry hm => ?_)
      rw [List.mem_singleton.mp hm]
      exact ⟨.schemas, hcites ▸ List.mem_singleton.mpr rfl⟩

theorem clean_response {home : String} {entry : String × DeclaredResponse} (hh : IsKeyText home)
    (hk : Check.isComponentKey entry.1) (hs : ∀ schema ∈ entry.2.schema, Publishable schema) :
    ∀ registration ∈ Operation.responseRegistrations home entry,
      Clean (component registration) := by
  have hname := isComponentKey_join hh (isComponentKey_iff.mp hk).2
  intro registration hm
  rcases List.mem_append.mp hm with hm | hm
  · cases hschema : entry.2.schema with
    | none => simp [hschema] at hm
    | some schema =>
      rw [hschema] at hm
      have hlabel : IsKeyText Operation.responseLabel := IsKeyText.of_all (by decide)
      exact clean_cut (hs schema hschema) (isComponentKey_iff.mp hname).2 hlabel registration hm
  · rw [List.mem_singleton.mp hm]
    exact clean_responseComponent entry.2 hname

/-- An HTTP method in any ASCII case has its usual name as lower case. -/
theorem lower_mem_httpMethods {name : String} (h : name.toLower ∈ Check.httpMethods) :
    Text.lower name ∈ Check.httpMethods := by
  have hascii : ∀ method ∈ Check.httpMethods, ∀ c ∈ method.toList, c.toNat < 128 := by
    simp [Check.httpMethods]
  rwa [Text.lower_eq_of_toLower (hascii _ h) rfl]

theorem isKeyText_operationName (path : String) {name : String}
    (h : name.toLower ∈ Check.httpMethods) : IsKeyText (operationName path name) := by
  have hmethods : ∀ method ∈ Check.httpMethods, method.toList.all Check.isKeyChar := by decide
  have hmethod : IsKeyText (Text.lower name) :=
    IsKeyText.of_all (hmethods _ (lower_mem_httpMethods h))
  refine IsKeyText.join (fun c hc => ?_) hmethod
  rw [pathName, String.toList_ofList] at hc
  have hname := (List.mem_filter.mp hc).2
  simp only [isNameChar, Bool.or_eq_true, decide_eq_true_eq] at hname
  rcases hname with hname | rfl
  · simp [Check.isKeyChar, hname]
  · decide

theorem clean_registrations {path name : String} {method : Method}
    (hname : name.toLower ∈ Check.httpMethods) (h : method.Admissible path) :
    ∀ entry ∈ registrations path name method, Clean (component entry) := by
  have hhome := isKeyText_operationName path hname
  intro entry hm
  rcases List.mem_append.mp hm with hm | hm
  · cases hb : method.bucket? bodyKey with
    | none => simp [hb] at hm
    | some body =>
      rw [hb] at hm
      have hlabel : IsKeyText bodyKey := IsKeyText.of_all (by decide)
      exact clean_cut (h.body body hb) hhome hlabel entry hm
  · cases hr : method.responses? with
    | none => simp [hr] at hm
    | some declared =>
      rw [hr] at hm
      obtain ⟨response, hd, hm⟩ := List.mem_flatMap.mp hm
      obtain ⟨hk, hs⟩ := h.responses declared hr response hd
      exact clean_response hhome hk hs entry hm

theorem clean_builtOperation {path name : String} {method : Method}
    (hname : name.toLower ∈ Check.httpMethods) (h : method.Admissible path) :
    Clean (operation path (Text.lower name) (builtOperation path name method)) := by
  refine .operation (lower_mem_httpMethods hname) (fun _ => operationIssues_builtOperation h)
    (fun _ => Operation.noFindings_operation fun parameter hm => ?_)
    (Operation.refersOnly_operation fun parameter hm value hv => ?_)
  · obtain ⟨bucket, schema, label, property, hd, rfl⟩ := Method.mem_parameters.mp hm
    exact (h.types bucket schema label property hd).declaredType
  · obtain ⟨bucket, schema, label, property, hd, rfl⟩ := Method.mem_parameters.mp hm
    exact h.examples bucket schema label property hd value hv

/-- An admissible route writes clean pieces only. -/
theorem clean_routePieces {route : Route} (h : route.Admissible) :
    ∀ piece ∈ routePieces route, Clean piece := by
  intro piece hm
  obtain ⟨entry, he, hm⟩ := List.mem_flatMap.mp hm
  obtain ⟨hname, hadmissible⟩ := h entry he
  rcases List.mem_append.mp hm with hm | hm
  · obtain ⟨registration, hr, rfl⟩ := List.mem_map.mp hm
    exact clean_registrations hname hadmissible registration hr
  · rw [List.mem_singleton.mp hm]
    exact clean_builtOperation hname hadmissible

end Piece

end RouteDoc
