import RouteDoc.Check.Structure
import RouteDoc.Operation.Written

namespace RouteDoc

namespace Check

/-- The finding about an operation without responses. -/
def unanswered (location : String) : Issue :=
  ⟨location ++ "/responses", "operation must define at least one response"⟩

/-- The finding about a path parameter without its flag, by its place among the parameters. -/
def unflagged (location : String) (index : Nat) (name : String) : Issue :=
  ⟨location ++ "/parameters/" ++ toString index,
    "path parameter '" ++ name ++ "' must be required"⟩

/-- The finding about a name of the path that no path parameter has. -/
def undeclared (location name : String) : Issue :=
  ⟨location ++ "/parameters", "path template parameter '" ++ name ++ "' is not declared"⟩

end Check

namespace Operation

/-- What the check of path parameters reads off a parameter. -/
theorem pathParameter?_toJson (parameter : Parameter) : Check.pathParameter? parameter.toJson =
    if parameter.location = .path then
      some (parameter.name, decide (parameter.required = some true))
    else none := by
  obtain ⟨location, name, description, required, schema⟩ := parameter
  cases location <;> cases description <;> rcases required with _ | _ | _ <;>
    simp [Check.pathParameter?, Parameter.toJson, Location.toJson, Location.key,
      Json.optionalString, Json.optional, Json.get?, Entries.get?, Json.asString?, Json.asBool?]

section Members

variable (operation : Operation)

theorem get?_parameters : operation.toJson.get? "parameters" =
    some (.array (operation.parameters.map Parameter.toJson)) := by
  obtain ⟨summary, description, parameters, requestBody, responses⟩ := operation
  cases summary <;> cases description <;> rfl

theorem get?_requestBody : operation.toJson.get? "requestBody" =
    operation.requestBody.map RequestBody.toJson := by
  obtain ⟨summary, description, parameters, requestBody, responses⟩ := operation
  cases summary <;> cases description <;> cases requestBody <;> rfl

theorem entriesAt_responses : operation.toJson.entriesAt "responses" =
    operation.responses.map fun (status, response) => (status, response.toJson) := by
  obtain ⟨summary, description, parameters, requestBody, responses⟩ := operation
  cases summary <;> cases description <;> cases requestBody <;> rfl

end Members

namespace Parameter

/-- The name of a path parameter. -/
def pathName? (parameter : Parameter) : Option String :=
  if parameter.location = .path then some parameter.name else none

/-- What is found in a path parameter, by its place among all parameters. -/
def finding? (location : String) (parameter : Parameter) (index : Nat) : Option Check.Issue :=
  if parameter.location = .path ∧ parameter.required ≠ some true then
    some (Check.unflagged location index parameter.name)
  else none

end Parameter

/-- The names of the path parameters. -/
def pathNames (operation : Operation) : List String :=
  operation.parameters.filterMap Parameter.pathName?

/-- The path parameters without their flag are found first, each at its place among the parameters,
then the names of the path that no path parameter has. -/
theorem pathParameterIssues_eq (operation : Operation) (location : String)
    (named : List String) : Check.pathParameterIssues location named operation.toJson =
      (operation.parameters.zipIdx.filterMap fun (parameter, index) =>
        parameter.finding? location index) ++
      (named.filter fun name => name ∉ operation.pathNames).map (Check.undeclared location) := by
  have hparameters : ((operation.toJson.get? "parameters").bind Json.asArray?).getD [] =
      operation.parameters.map Parameter.toJson := by
    rw [get?_parameters]
    rfl
  have hnames : (operation.parameters.map Parameter.toJson).filterMap
      (fun parameter => (Check.pathParameter? parameter).map Prod.fst) = operation.pathNames := by
    rw [pathNames, List.filterMap_map]
    congr 1
    funext parameter
    by_cases hl : parameter.location = .path <;>
      simp [pathParameter?_toJson, Parameter.pathName?, hl]
  simp only [Check.pathParameterIssues, hparameters, hnames]
  congr 1
  · rw [List.zipIdx_map, List.filterMap_map]
    congr 1
    funext ⟨parameter, index⟩
    by_cases hl : parameter.location = .path <;>
      by_cases hf : parameter.required = some true <;>
      simp [pathParameter?_toJson, Parameter.finding?, hl, hf, Check.unflagged]
  · simp [Check.undeclared]

theorem operationIssues_eq (operation : Operation) (location : String) (named : List String) :
    Check.operationIssues location named operation.toJson =
      (if operation.responses = [] then [Check.unanswered location] else []) ++
      Check.pathParameterIssues location named operation.toJson := by
  rw [Check.operationIssues, entriesAt_responses]
  cases hr : operation.responses <;> rfl

/-- An operation without responses is found, and no other. -/
theorem unanswered_mem_operationIssues (operation : Operation) (location : String)
    (named : List String) :
    Check.unanswered location ∈ Check.operationIssues location named operation.toJson ↔
      operation.responses = [] := by
  have hparameters : Check.unanswered location ∉
      Check.pathParameterIssues location named operation.toJson := by
    intro hm
    rw [pathParameterIssues_eq] at hm
    rcases List.mem_append.mp hm with hm | hm
    · obtain ⟨⟨parameter, index⟩, _, he⟩ := List.mem_filterMap.mp hm
      dsimp only [Parameter.finding?] at he
      split at he
      · have hwords := congrArg (fun issue => issue.map Check.Issue.message) he
        simp [Check.unflagged, Check.unanswered, ← String.toList_inj] at hwords
      · cases he
    · obtain ⟨name, _, he⟩ := List.mem_map.mp hm
      have hwords := congrArg Check.Issue.message he
      simp [Check.undeclared, Check.unanswered, ← String.toList_inj] at hwords
  rw [operationIssues_eq]
  by_cases hr : operation.responses = [] <;> simp [hr, hparameters]

end Operation

end RouteDoc
