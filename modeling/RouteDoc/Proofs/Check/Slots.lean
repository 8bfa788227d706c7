import RouteDoc.Check.Structure
import RouteDoc.Proofs.Schema.Grammar

namespace RouteDoc

/-- The value that keys lead to, from object to object. -/
def Json.dig : List String → Json → Option Json
  | [], value => some value
  | key :: keys, value => (value.get? key).bind (dig keys)

theorem Json.dig_cons {key : String} {keys : List String} {value inner : Json} :
    Json.dig (key :: keys) value = some inner ↔
      ∃ member, value.get? key = some member ∧ Json.dig keys member = some inner :=
  Option.bind_eq_some_iff

theorem Json.mem_entriesAt {value owner member : Json} {key name : String}
    (ho : value.get? key = some owner) (hm : owner.get? name = some member) :
    (name, member) ∈ value.entriesAt key := by
  cases owner with
  | object entries =>
    rw [Json.entriesAt, ho]
    exact Entries.mem_of_get? hm
  | _ => cases hm

namespace Check

open Json (dig dig_cons mem_entriesAt)
open Schema.SchemaObject (IsReference Conforms check_eq_nil_iff)

/-- A schema of one of the parameters that the owner lists. -/
def ListsParameter (owner schema : Json) : Prop :=
  ∃ parameters parameter, owner.get? "parameters" = some (.array parameters) ∧
    parameter ∈ parameters ∧ parameter.get? "schema" = some schema

/-- Keys of a path item that define operations. -/
def operationKeys : List String :=
  ["get", "put", "post", "delete", "options", "head", "patch", "trace"]

theorem httpMethods_eq : httpMethods = operationKeys := rfl

/-- The places where a document holds a schema that is not within another one. -/
inductive HoldsSchema (document schema : Json) : Prop
  | component (name : String) :
      dig ["components", "schemas", name] document = some schema → HoldsSchema document schema
  | componentMedia (place name mediaType : String) : place ∈ ["responses", "requestBodies"] →
      dig ["components", place, name, "content", mediaType, "schema"] document = some schema →
      HoldsSchema document schema
  | componentParameter (name : String) :
      dig ["components", "parameters", name, "schema"] document = some schema →
      HoldsSchema document schema
  | pathParameter (path : String) (item : Json) : dig ["paths", path] document = some item →
      ListsParameter item schema → HoldsSchema document schema
  | operationParameter (path method : String) (operation : Json) : method ∈ operationKeys →
      dig ["paths", path, method] document = some operation →
      ListsParameter operation schema → HoldsSchema document schema
  | requestBody (path method mediaType : String) : method ∈ operationKeys →
      dig ["paths", path, method, "requestBody", "content", mediaType, "schema"] document =
        some schema → HoldsSchema document schema
  | response (path method status mediaType : String) : method ∈ operationKeys →
      dig ["paths", path, method, "responses", status, "content", mediaType, "schema"] document =
        some schema → HoldsSchema document schema

/-- The schema is among the slots. -/
def Lists (slots : Slots) (schema : Json) : Prop := ∃ location, (location, schema) ∈ slots

namespace Lists

variable {slots others : Slots} {schema : Json}

theorem left (h : Lists slots schema) : Lists (slots ++ others) schema := by
  obtain ⟨location, hm⟩ := h
  exact ⟨location, List.mem_append_left _ hm⟩

theorem right (h : Lists others schema) : Lists (slots ++ others) schema := by
  obtain ⟨location, hm⟩ := h
  exact ⟨location, List.mem_append_right _ hm⟩

theorem flatMap {α : Type} {items : List α} {slotsOf : α → Slots} {item : α} (hi : item ∈ items)
    (h : Lists (slotsOf item) schema) : Lists (items.flatMap slotsOf) schema := by
  obtain ⟨location, hm⟩ := h
  exact ⟨location, List.mem_flatMap.mpr ⟨item, hi, hm⟩⟩

end Lists

section Slots

variable {document owner item operation schema : Json} {location path method : String}

theorem lists_schemaSlot (h : owner.get? "schema" = some schema) :
    Lists (schemaSlot location owner) schema := by
  refine ⟨location ++ "/schema", ?_⟩
  rw [schemaSlot, h]
  exact List.mem_cons_self

theorem lists_contentSlots {mediaType : String}
    (h : dig ["content", mediaType, "schema"] owner = some schema) :
    Lists (contentSlots location owner) schema := by
  obtain ⟨content, hcontent, h⟩ := dig_cons.mp h
  obtain ⟨media, hmedia, h⟩ := dig_cons.mp h
  obtain ⟨found, hschema, h⟩ := dig_cons.mp h
  cases h
  exact .flatMap (mem_entriesAt hcontent hmedia) (lists_schemaSlot hschema)

theorem lists_parameterSlots (h : ListsParameter owner schema) :
    Lists (parameterSlots location owner) schema := by
  obtain ⟨parameters, parameter, hg, hm, hschema⟩ := h
  obtain ⟨index, hi⟩ := List.mem_iff_getElem?.mp hm
  have hindexed : (parameter, index) ∈ parameters.zipIdx := List.mem_zipIdx_iff_getElem?.mpr hi
  rw [parameterSlots, hg]
  exact .flatMap hindexed (lists_schemaSlot hschema)

theorem lists_requestBody {mediaType : String}
    (h : dig ["requestBody", "content", mediaType, "schema"] operation = some schema) :
    Lists (operationSlots location operation) schema := by
  obtain ⟨body, hbody, h⟩ := dig_cons.mp h
  rw [operationSlots, hbody]
  exact .left (.right (lists_contentSlots h))

theorem lists_response {status mediaType : String}
    (h : dig ["responses", status, "content", mediaType, "schema"] operation = some schema) :
    Lists (operationSlots location operation) schema := by
  obtain ⟨responses, hresponses, h⟩ := dig_cons.mp h
  obtain ⟨response, hresponse, h⟩ := dig_cons.mp h
  exact .right (.flatMap (mem_entriesAt hresponses hresponse) (lists_contentSlots h))

/-- The slots of an operation are among those of its path. -/
theorem lists_operationSlots (hm : method ∈ operationKeys) (hg : item.get? method = some operation)
    (h : ∀ location, Lists (operationSlots location operation) schema) :
    Lists (pathSlots path item) schema := by
  rw [← httpMethods_eq] at hm
  refine .right (.flatMap hm ?_)
  rw [hg]
  exact h _

/-- The slots of a path are among those of the document. -/
theorem lists_pathSlots {keys : List String} {inner : Json}
    (h : dig ("paths" :: path :: keys) document = some inner) : ∃ item,
      dig keys item = some inner ∧
        (Lists (pathSlots path item) schema → Lists (schemaSlots document) schema) := by
  obtain ⟨paths, hpaths, h⟩ := dig_cons.mp h
  obtain ⟨item, hitem, h⟩ := dig_cons.mp h
  exact ⟨item, h, fun hl => .right (.flatMap (mem_entriesAt hpaths hitem) hl)⟩

theorem lists_operation {keys : List String} {inner : Json} (hm : method ∈ operationKeys)
    (h : dig ("paths" :: path :: method :: keys) document = some inner) : ∃ operation,
      dig keys operation = some inner ∧
        ((∀ location, Lists (operationSlots location operation) schema) →
          Lists (schemaSlots document) schema) := by
  obtain ⟨item, h, hpath⟩ := lists_pathSlots h
  obtain ⟨operation, hg, h⟩ := dig_cons.mp h
  exact ⟨operation, h, fun hl => hpath (lists_operationSlots hm hg hl)⟩

/-- The slots of the components are among those of the document. -/
theorem lists_componentSlots {keys : List String} {inner : Json}
    (h : dig ("components" :: keys) document = some inner) : ∃ components,
      dig keys components = some inner ∧
        (Lists (componentSlots components) schema → Lists (schemaSlots document) schema) := by
  obtain ⟨components, hg, h⟩ := dig_cons.mp h
  refine ⟨components, h, fun hl => .left ?_⟩
  rw [hg]
  exact hl

/-- No place is left out. -/
theorem lists_schemaSlots (h : HoldsSchema document schema) :
    Lists (schemaSlots document) schema := by
  cases h with
  | component name h =>
    obtain ⟨components, h, hlists⟩ := lists_componentSlots h
    obtain ⟨schemas, hschemas, h⟩ := dig_cons.mp h
    obtain ⟨found, hfound, h⟩ := dig_cons.mp h
    cases h
    refine hlists (.left (.left ?_))
    exact ⟨_, List.mem_map_of_mem (mem_entriesAt hschemas hfound)⟩
  | componentMedia place name mediaType hp h =>
    obtain ⟨components, h, hlists⟩ := lists_componentSlots h
    obtain ⟨owners, howners, h⟩ := dig_cons.mp h
    obtain ⟨owner, howner, h⟩ := dig_cons.mp h
    refine hlists (.left (.right (.flatMap hp ?_)))
    exact .flatMap (mem_entriesAt howners howner) (lists_contentSlots h)
  | componentParameter name h =>
    obtain ⟨components, h, hlists⟩ := lists_componentSlots h
    obtain ⟨parameters, hparameters, h⟩ := dig_cons.mp h
    obtain ⟨parameter, hparameter, h⟩ := dig_cons.mp h
    obtain ⟨found, hfound, h⟩ := dig_cons.mp h
    cases h
    exact hlists (.right (.flatMap (mem_entriesAt hparameters hparameter) (lists_schemaSlot hfound)))
  | pathParameter path item h hl =>
    obtain ⟨found, h, hlists⟩ := lists_pathSlots h
    cases h
    exact hlists (.left (lists_parameterSlots hl))
  | operationParameter path method operation hm h hl =>
    obtain ⟨found, h, hlists⟩ := lists_operation hm h
    cases h
    exact hlists fun location => .left (.left (lists_parameterSlots hl))
  | requestBody path method mediaType hm h =>
    obtain ⟨operation, h, hlists⟩ := lists_operation hm h
    exact hlists fun location => lists_requestBody h
  | response path method status mediaType hm h =>
    obtain ⟨operation, h, hlists⟩ := lists_operation hm h
    exact hlists fun location => lists_response h

end Slots

/-- The key of references with something that is no reference. -/
def HasStrayReference (schema : Json) : Prop :=
  ∃ value, schema.get? "$ref" = some value ∧ value.isString = false

/-- What a slot without findings holds. -/
theorem slot_cases {location : String} {schema : Json} (h : slotIssues location schema = []) :
    IsReference schema ∨ Conforms schema ∨ HasStrayReference schema := by
  unfold slotIssues at h
  split at h
  · rename_i href
    obtain ⟨value, hg⟩ := Option.isSome_iff_exists.mp href
    cases value with
    | string target => exact .inl ⟨target, hg⟩
    | _ => exact .inr (.inr ⟨_, hg, rfl⟩)
  · exact .inr (.inl (check_eq_nil_iff.mp (List.map_eq_nil_iff.mp h)))

theorem schemaIssues_of_structural {document : Json} (h : structural document = []) :
    schemaIssues document = [] := by
  cases document with
  | object members =>
    simp only [structural, List.append_eq_nil_iff] at h
    exact h.1.1.2
  | _ => cases h

/-- In a document without findings every schema is a reference or a Schema Object, wherever it
stands. The check passes over a schema whose reference is no text. -/
theorem schema_checked {document schema : Json} (h : structural document = [])
    (hs : HoldsSchema document schema) :
    IsReference schema ∨ Conforms schema ∨ HasStrayReference schema := by
  obtain ⟨location, hslot⟩ := lists_schemaSlots hs
  have hnone := List.flatMap_eq_nil_iff.mp (schemaIssues_of_structural h) _ hslot
  exact slot_cases hnone

/-- A document with this schema for the body of a request and that one for a response. -/
def petsDocument (body answer : Json) : Json :=
  let content (schema : Json) : Json :=
    .object [("content", .object [("application/json", .object [("schema", schema)])])]
  .object [
    ("openapi", .string "3.0.0"),
    ("info", .object [("title", .string "Pets"), ("version", .string "1.0.0")]),
    ("paths", .object [("/pets", .object [("post", .object [("requestBody", content body),
      ("responses", .object [("200", content answer)])])])])]

def petSchema : Json := .object [("type", .string "object"),
  ("properties", .object [("name", .object [("type", .string "string")])])]

theorem schema_checked_pets : structural (petsDocument petSchema (.object [])) = [] ∧
    HoldsSchema (petsDocument petSchema (.object [])) petSchema ∧
      (IsReference petSchema ∨ Conforms petSchema ∨ HasStrayReference petSchema) := by
  have hpassed : structural (petsDocument petSchema (.object [])) = [] := by decide +kernel
  have hholds : HoldsSchema (petsDocument petSchema (.object [])) petSchema :=
    .requestBody "/pets" "post" "application/json" (by decide) rfl
  exact ⟨hpassed, hholds, schema_checked hpassed hholds⟩

/-- A number under the key of references. -/
def straySchema : Json := .object [("$ref", .ofNat 7)]

/-- It is neither a reference nor a Schema Object, but the check finds nothing. -/
theorem schema_unchecked_stray : structural (petsDocument petSchema straySchema) = [] ∧
    HoldsSchema (petsDocument petSchema straySchema) straySchema ∧
      ¬IsReference straySchema ∧ ¬Conforms straySchema := by
  refine ⟨by decide +kernel, ?_, ?_, ?_⟩
  · exact .response "/pets" "post" "200" "application/json" (by decide) rfl
  · rintro ⟨target, hg⟩
    cases hg
  · rw [← check_eq_nil_iff]
    decide +kernel

end Check
end RouteDoc
