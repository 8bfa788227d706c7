import RouteDoc.Reading.Fields

namespace RouteDoc.Check.SecurityScheme

open Reading (Source Reader Fields Cause)

/-- Where a name was expected. -/
def variant (names : List String) : Reader String := fun source => do
  let name ← Reading.textAs "variant identifier" source
  if names.contains name then return name
  else throw (.content (.unknownVariant name names) none)

def missing {α : Type} (name : String) : Except Reading.Fault α :=
  .error (.content (.missing name) none)

/-- An object that names its kind in one member; the reader of that kind gets the other members. -/
def tagged (tag : String) (what : String) (names : List String) (body : String → Reader Unit) :
    Reader Unit := fun source =>
  match source with
  | .json (.object members) =>
    match Entries.get? tag members with
    | none => missing tag
    | some value => do
      let name ← variant names (.json value)
      body name (.json (.object (members.filter fun member => member.1 ≠ tag)))
  | .json (.array []) => missing tag
  | .json (.array (value :: rest)) => do
    let name ← variant names (.json value)
    body name (.json (.array rest))
  | _ => source.refuse ("internally tagged enum " ++ what)

def description : Fields (Option String) := .maybe "description" Reading.text

/-- Reads these fields and keeps nothing. -/
def fields (name : String) (body : Fields Unit) : Reader Unit :=
  Reading.openRecord name (((Fields.of fun _ _ => ()).field body))

def named (name : String) : Fields Unit :=
  ((Fields.of fun _ => ()).field (.required name Reading.text))

def httpSchemes : List String :=
  ["basic", "bearer", "digest", "hoba", "mutual", "negotiate", "oauth", "scram-sha-1",
    "scram-sha-256", "vapid"]

def http : Reader Unit :=
  fields "Http"
    ((((Fields.of fun _ _ _ => ()).field (.required "scheme" (variant httpSchemes))).field
    (.maybe "bearerFormat" Reading.text)).field description)

def apiKey : Reader Unit :=
  tagged "in" "ApiKey" ["header", "query", "cookie"] fun _ =>
    fields "ApiKeyValue" (((Fields.of fun _ _ => ()).field (named "name")).field description)

def openIdConnect : Reader Unit :=
  fields "OpenIdConnect"
    (((Fields.of fun _ _ => ()).field (named "openIdConnectUrl")).field description)

/-- A flow has an address to authorize at or one for tokens, and its scopes. -/
def isFlow : Json → Bool
  | .object members =>
    let isString (name : String) : Bool := (Entries.get? name members).any Json.isString
    (isString "authorizationUrl" || isString "tokenUrl") &&
      ((Entries.get? "refreshUrl" members).all fun url => url.isString || url.isNull) &&
      (match Entries.get? "scopes" members with
      | some (.object scopes) => scopes.all fun scope => scope.2.isString
      | _ => false)
  | _ => false

/-- No reading of a value fits. -/
def noFlow : String := "data did not match any variant of untagged enum Flow"

/-- The schemes whose kind is given by a name. -/
def kinds : List String := ["oauth2", "apiKey", "http", "openIdConnect", "mutualTLS"]

/-- The flows of a scheme are readable. -/
def flowsFit (value : Json) : Bool :=
  (value.entriesAt "flows").all fun flow => isFlow flow.2

def oauth2 : Reader Unit :=
  fields "OAuth2" (((Fields.of fun _ _ => ()).field
    (.required "flows" (Reading.mapOf Reading.value))).field description)

def mutualTls : Reader Unit :=
  fields "MutualTls" ((Fields.of fun _ => ()).field description)

def reader : Reader Unit :=
  tagged "type" "SecurityScheme" kinds fun kind =>
    if kind = "oauth2" then oauth2
    else if kind = "apiKey" then apiKey
    else if kind = "http" then http
    else if kind = "openIdConnect" then openIdConnect
    else mutualTls

/-- Why a scheme cannot be read. -/
def problem? (value : Json) : Option String :=
  match reader (.json value) with
  | .error fault => some fault.message
  | .ok () =>
    if (value.get? "type").any (fun type => type.asString? = some "oauth2") && !flowsFit value then
      some noFlow
    else none

end RouteDoc.Check.SecurityScheme
