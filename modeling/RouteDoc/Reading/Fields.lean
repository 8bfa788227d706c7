import RouteDoc.Reading.Source

namespace RouteDoc.Reading

structure Member where
  name : String
  source : Source

/-- A fault with the index of the member it arose at. -/
abbrev Positioned (α : Type) := Except (Nat × Fault) α

/-- How to read some fields of a record, from named members or from a list in declaration order. -/
structure Fields (α : Type) where
  names : List String
  named : List Member → Positioned α
  /-- `expected` describes the whole record; the number counts the items already taken. -/
  listed : (expected : String) → Nat → List Source → Except Fault (α × Nat × List Source)

namespace Fields

/-- Of two faults the one at the earlier member, and at one place the first of them. -/
def both {α β : Type} (f : Positioned (α → β)) (x : Positioned α) : Positioned β :=
  match f, x with
  | .ok f, .ok x => .ok (f x)
  | .error fault, .ok _ => .error fault
  | .ok _, .error fault => .error fault
  | .error (i, first), .error (j, second) => if i ≤ j then .error (i, first) else .error (j, second)

/-- A record without fields. -/
def of {α : Type} (value : α) : Fields α where
  names := []
  named := fun _ => .ok value
  listed := fun _ taken items => .ok (value, taken, items)

/-- One more field. -/
def field {α β : Type} (f : Fields (α → β)) (x : Fields α) : Fields β where
  names := f.names ++ x.names
  named := fun members => both (f.named members) (x.named members)
  listed := fun expected taken items => do
    let (f, taken, items) ← f.listed expected taken items
    let (x, taken, items) ← x.listed expected taken items
    return (f x, taken, items)

/-- The members of one name, with their indices. -/
def occurrences (name : String) (members : List Member) : List (Nat × Source) :=
  members.zipIdx.filterMap fun (member, index) =>
    if member.name = name then some (index, member.source) else none

def fault (cause : Cause) : Fault := .content cause none

/-- A field that takes `absent` where it is not given. -/
def one {α : Type} (name : String) (reader : Reader α) (absent : Option α) : Fields α where
  names := [name]
  named := fun members =>
    match occurrences name members with
    | [] =>
      match absent with
      | some value => .ok value
      | none => .error (members.length, fault (.missing name))
    | (index, source) :: others =>
      match reader source, others with
      | .error cause, _ => .error (index, cause)
      | .ok value, [] => .ok value
      | .ok _, (again, _) :: _ => .error (again, fault (.duplicate name))
  listed := fun expected taken items =>
    match items, absent with
    | source :: rest, _ => do return (← reader source, taken + 1, rest)
    | [], some value => .ok (value, taken, [])
    | [], none => .error (fault (.wrongLength taken expected))

def required {α : Type} (name : String) (reader : Reader α) : Fields α := one name reader none

def withDefault {α : Type} (name : String) (reader : Reader α) (absent : α) : Fields α :=
  one name reader (some absent)

def maybe {α : Type} (name : String) (reader : Reader α) : Fields (Option α) :=
  one name (optional reader) (some none)

end Fields

/-- The members with readable keys, and the fault of the first key that is not. -/
def namedMembers : List (Source × Source) → List Member × Option Fault
  | [] => ([], none)
  | (key, source) :: rest =>
    match textAs "field identifier" key with
    | .ok name =>
      let (members, fault) := namedMembers rest
      (⟨name, source⟩ :: members, fault)
    | .error fault => ([], some fault)

/-- Passes over the members that no field is named for. -/
def skipUnknown (names : List String) : Nat → List Member → Positioned Unit
  | _, [] => .ok ()
  | index, member :: rest =>
    if names.contains member.name then skipUnknown names (index + 1) rest
    else
      match skip member.source with
      | .ok () => skipUnknown names (index + 1) rest
      | .error fault => .error (index, fault)

/-- Reads all members; a key that cannot be read stands behind those before it. -/
def readNamed {α : Type} (fields : Fields α) (ignored : List Member → Positioned Unit)
    (pairs : List (Source × Source)) : Except Fault α :=
  let (members, keyFault) := namedMembers pairs
  let keys : Positioned Unit :=
    match keyFault with
    | some fault => .error (members.length, fault)
    | none => .ok ()
  let first := Fields.both ((fun _ _ => ()) <$> ignored members) keys
  match Fields.both ((fun _ value => value) <$> first) (fields.named members) with
  | .ok value => .ok value
  | .error (_, fault) => .error fault

def countWords (n : Nat) (word : String) : String :=
  toString n ++ " " ++ word ++ if n = 1 then "" else "s"

/-- What a record of this name is called where its length is wrong. -/
def recordWords (name : String) (count : Nat) : String :=
  "struct " ++ name ++ " with " ++ countWords count "element"

/-- A list may hold no more than the fields. -/
def checkRest (source : Source) (length taken : Nat) (rest : List Source) : Except Fault Unit := do
  for item in rest do skip item
  if rest.isEmpty then return ()
  else if source.isJson then
    throw (.content (.wrongLength length "fewer elements in array") none)
  else throw (.content (.wrongLength length ("sequence of " ++ countWords taken "element")) none)

/-- A record from a mapping or from a list of its fields; unknown members are passed over. -/
def record {α : Type} (name : String) (fields : Fields α) : Reader α := fun source =>
  match source.members?, source.items? with
  | some pairs, _ =>
    source.locate (readNamed fields (skipUnknown fields.names 0) pairs)
  | none, some items =>
    source.locate (do
      let (value, taken, rest) ← fields.listed (recordWords name fields.names.length) 0 items
      checkRest source items.length taken rest
      return value)
  | none, none =>
    if source.isEmpty then source.locate (readNamed fields (skipUnknown fields.names 0) [])
    else source.refuse ("struct " ++ name)

/-- A value under a name that is not known; a fault of the second kind shows only at the end. -/
abbrev Kept := Except Fault (Except Cause Json)

def keptScalar : Yaml.Resolved → Kept
  | .wide n => .error (.content (.wrongType (.wide n) "any value") none)
  | resolved => (jsonOf resolved).map .ok

/-- What stands in the place of a key below a kept value. -/
def badKey (first : Bool) (found : Found) : Except Cause String :=
  .error (.wrongType found (if first then "a string key" else "a string"))

/-- Keys below a kept value must be text; other scalars are refused for what they are. -/
def keptKey (first : Bool) : Yaml.Node → Except Fault (Except Cause String)
  | .scalar text style tag _ => do
    match ← resolveScalar text style tag with
    | .text s => return .ok s
    | other => return badKey first (foundScalar other)
  | .sequence _ _ _ => .ok (badKey first .sequence)
  | .mapping _ _ _ => .ok (badKey first .mapping)
  | .alias target => keptKey first target
  | .void _ => .ok (badKey first .unit)
  | .broken fault => .error (.text fault)

def taggedMember : Fault := .content .taggedMember none

mutual

def keptNode (path : Path) : Yaml.Node → Kept
  | .scalar text style tag mark =>
    Source.locate (.yaml (.scalar text style tag mark) path) (
      if hasLocalTag tag then .error taggedMember
      else do keptScalar (← resolveScalar text style tag))
  | .sequence tag items mark =>
    Source.locate (.yaml (.sequence tag [] mark) path) (
      if hasLocalTag tag then .error taggedMember
      else do return (← keptItems path 0 items).map .array)
  | .mapping tag members mark =>
    Source.locate (.yaml (.mapping tag [] mark) path) (
      if hasLocalTag tag then .error taggedMember
      else do
        return (← keptMembers path true members).map fun members =>
          .object (Entries.ofList members))
  | .alias target => keptNode path target
  | .void _ => .ok (.ok .null)
  | .broken fault => .error (.text fault)
termination_by structural node => node

def keptItems (path : Path) (index : Nat) :
    List Yaml.Node → Except Fault (Except Cause (List Json))
  | [] => .ok (.ok [])
  | item :: rest => do
    let value ← keptNode (.index path index) item
    let values ← keptItems path (index + 1) rest
    return do return (← value) :: (← values)

def keptMembers (path : Path) (first : Bool) :
    List (Yaml.Node × Yaml.Node) → Except Fault (Except Cause (List (String × Json)))
  | [] => .ok (.ok [])
  | (key, node) :: rest => do
    let name ← keptKey first key
    let value ← keptNode (valuePath path key) node
    let values ← keptMembers path false rest
    return do
      let name ← name
      let value ← value
      return (name, value) :: (← values)

end

def kept : Source → Kept
  | .json value => .ok (.ok value)
  | .yaml node path => keptNode path node

/-- The members that no other field is named for, each a value. -/
def Fields.others (known : List String) : Fields (Entries Json) where
  names := []
  named := fun members =>
    let rec collect : Nat → List Member → Positioned (Except Cause (List (String × Json)))
      | _, [] => .ok (.ok [])
      | index, member :: rest =>
        if known.contains member.name then collect (index + 1) rest
        else
          match kept member.source with
          | .error fault => .error (index, fault)
          | .ok value => do
            let values ← collect (index + 1) rest
            return do return (member.name, ← value) :: (← values)
    match collect 0 members with
    | .error fault => .error fault
    | .ok (.error cause) => .error (members.length, Fields.fault cause)
    | .ok (.ok values) => .ok (Entries.ofList values)
  listed := fun _ taken items => .ok ([], taken, items)

/-- A record that keeps its unknown members; it cannot be given as a list. -/
def openRecord {α : Type} (name : String) (fields : Fields (Entries Json → α)) : Reader α :=
  fun source =>
    let all := fields.field (Fields.others fields.names)
    match source.members? with
    | some pairs => source.locate (readNamed all (fun _ => .ok ()) pairs)
    | none =>
      if source.isEmpty then source.locate (readNamed all (fun _ => .ok ()) [])
      else source.refuse ("struct " ++ name)

end RouteDoc.Reading
