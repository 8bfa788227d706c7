import RouteDoc.Reading.Fault
import RouteDoc.Yaml.Node

namespace RouteDoc.Reading

/-- A YAML scalar without quotes is read as whatever the model asks for. -/
inductive Source where
  | json (value : Json)
  | yaml (node : Yaml.Node) (path : Path)
deriving Inhabited

abbrev Reader (α : Type) := Source → Except Fault α

/-- The node at the end of a chain of aliases. -/
def followAlias : Yaml.Node → Yaml.Node
  | .alias target => followAlias target
  | node => node

def Source.settle : Source → Source
  | .json value => .json value
  | .yaml node path => .yaml (followAlias node) path

def nodeMark? : Yaml.Node → Option Yaml.Mark
  | .scalar _ _ _ mark | .sequence _ _ mark | .mapping _ _ mark | .void mark => some mark
  | .alias _ | .broken _ => none

/-- Names the place of a fault that arose here. -/
def Source.locate {α : Type} (source : Source) : Except Fault α → Except Fault α
  | .ok value => .ok value
  | .error fault =>
    match source.settle with
    | .json _ => .error fault
    | .yaml node path =>
      match nodeMark? node with
      | some mark => .error (fault.place mark path)
      | none => .error fault

def foundNumber : Number → Found
  | .integer n => .integer n
  | .binary x => .float (x.render .json)

def foundJson : Json → Found
  | .null => .null
  | .bool b => .bool b
  | .number n => foundNumber n
  | .string s => .text s
  | .array _ => .sequence
  | .object _ => .mapping

def foundScalar : Yaml.Resolved → Found
  | .null => .unit
  | .bool b => .bool b
  | .integer n => .integer n
  | .wide n => .wide n
  | .float x => .float (x.render .plain)
  | .special name => .float name
  | .text s => .text s

/-- The reading of a scalar, or the fault that its tag does not fit. -/
def resolveScalar (text : String) (style : Yaml.Style) (tag : Option String) :
    Except Fault Yaml.Resolved :=
  match Yaml.Scalar.resolve text style tag with
  | .ok found => .ok found
  | .error mismatch => .error (.content (.wrongValue (.text text) mismatch.expected) none)

def refuse {α : Type} (found : Found) (expected : String) : Except Fault α :=
  .error (.content (.wrongType found expected) none)

/-- Refuses a source for what it is. -/
def Source.refuse {α : Type} (source : Source) (expected : String) : Except Fault α :=
  source.locate (
    match source.settle with
    | .json value => Reading.refuse (foundJson value) expected
    | .yaml (.scalar text style tag _) _ => do
      Reading.refuse (foundScalar (← resolveScalar text style tag)) expected
    | .yaml (.sequence _ _ _) _ => Reading.refuse .sequence expected
    | .yaml (.mapping _ _ _) _ => Reading.refuse .mapping expected
    | .yaml (.broken fault) _ => .error (.text fault)
    | .yaml _ _ => Reading.refuse .unit expected)

/-- Text that is not what was asked for is named in the fault. -/
def textAs (expected : String) : Reader String := fun source =>
  match source.settle with
  | .json (.string s) => .ok s
  | .yaml (.scalar text _ _ _) _ => .ok text
  | _ => source.refuse expected

/-- A string; of YAML any scalar in its own spelling. -/
def text : Reader String := textAs "a string"

/-- A truth value; a tagged literal block may hold one too. -/
def flag : Reader Bool := fun source =>
  match source.settle with
  | .json (.bool b) => .ok b
  | .yaml (.scalar text style tag _) _ =>
    let tagged := style = .literal ∧ tag = some (Yaml.Scalar.coreTag "bool")
    match Yaml.Scalar.bool? text.toList with
    | some b => if style = .plain ∨ tagged then .ok b else source.refuse "a boolean"
    | none => source.refuse "a boolean"
  | _ => source.refuse "a boolean"

/-- A plain scalar without text stands for an empty collection. -/
def isEmptyScalar : Yaml.Node → Bool
  | .scalar text style _ _ => text = "" && style = .plain
  | .void _ => true
  | _ => false

/-- Nothing is given: null, or a plain scalar without text. -/
def isAbsent (text : String) (style : Yaml.Style) (tag : Option String) : Except Fault Bool :=
  if style ≠ .plain then .ok false
  else
    match tag with
    | none => .ok (text = "" ∨ Yaml.Scalar.isNull text.toList)
    | some tag =>
      if tag = Yaml.Scalar.coreTag "null" then
        if Yaml.Scalar.isNull text.toList then .ok true
        else .error (.content (.wrongValue (.text text) "null") none)
      else .ok (text = "")

/-- A value that may be absent. -/
def optional {α : Type} (reader : Reader α) : Reader (Option α) := fun source =>
  match source.settle with
  | .json .null => .ok none
  | .yaml (.void _) _ => .ok none
  | .yaml (.scalar text style tag _) _ => do
    if ← isAbsent text style tag then return none else return some (← reader source)
  | _ => some <$> reader source

/-- The tag of a node that the core set does not know. -/
def hasLocalTag (tag : Option String) : Bool := tag.any Yaml.Scalar.isLocal

def jsonOf : Yaml.Resolved → Except Fault Json
  | .null => .ok .null
  | .bool b => .ok (.bool b)
  | .integer n => .ok (.number (.integer n))
  | .wide _ => .error (.content .outOfRange none)
  | .float x => .ok (.number (.binary x))
  | .special _ => .ok .null
  | .text s => .ok (.string s)

def taggedValue : Fault := .content (.wrongType .enumeration "any valid JSON value") none

/-- The path of a value below a key; an alias as a key leaves it unknown. -/
def valuePath (path : Path) : Yaml.Node → Path
  | .scalar text _ _ _ => .key path text
  | _ => .unknown path

mutual

/-- Any value. -/
def valueOfNode (path : Path) : Yaml.Node → Except Fault Json
  | .scalar text style tag mark =>
    Source.locate (.yaml (.scalar text style tag mark) path) (
      if hasLocalTag tag then .error taggedValue
      else do jsonOf (← resolveScalar text style tag))
  | .sequence tag items mark =>
    Source.locate (.yaml (.sequence tag [] mark) path) (
      if hasLocalTag tag then .error taggedValue
      else do return .array (← valuesOfItems path 0 items))
  | .mapping tag members mark =>
    Source.locate (.yaml (.mapping tag [] mark) path) (
      if hasLocalTag tag then .error taggedValue
      else do return .object (← valuesOfMembers path [] members))
  | .alias target => valueOfNode path target
  | .void _ => .ok .null
  | .broken fault => .error (.text fault)
termination_by structural node => node

def valuesOfItems (path : Path) (index : Nat) : List Yaml.Node → Except Fault (List Json)
  | [] => .ok []
  | item :: rest => do
    let value ← valueOfNode (.index path index) item
    return value :: (← valuesOfItems path (index + 1) rest)

/-- A repeated key keeps its place and takes the later value. -/
def valuesOfMembers (path : Path) (done : Entries Json) :
    List (Yaml.Node × Yaml.Node) → Except Fault (Entries Json)
  | [] => .ok done
  | (key, node) :: rest => do
    let name ← textAs (if done.isEmpty then "a string key" else "a string") (.yaml key path)
    let value ← valueOfNode (valuePath path key) node
    valuesOfMembers path (done.insert name value) rest

end

def value : Reader Json
  | .json value => .ok value
  | .yaml node path => valueOfNode path node

mutual

/-- Passes over a node that nobody reads; only an unreadable text is noticed. -/
def skipNode : Yaml.Node → Except Fault Unit
  | .sequence _ items _ => skipItems items
  | .mapping _ members _ => skipMembers members
  | .broken (.tooDeep _) | .broken .tooManyRepetitions => .ok ()
  | .broken fault => .error (.text fault)
  | _ => .ok ()
termination_by structural node => node

def skipItems : List Yaml.Node → Except Fault Unit
  | [] => .ok ()
  | item :: rest => do skipNode item; skipItems rest

def skipMembers : List (Yaml.Node × Yaml.Node) → Except Fault Unit
  | [] => .ok ()
  | (key, node) :: rest => do skipNode key; skipNode node; skipMembers rest

end

def skip : Reader Unit
  | .json _ => .ok ()
  | .yaml node _ => skipNode node

/-- The items of a sequence, if the source is one. -/
def Source.items? (source : Source) : Option (List Source) :=
  match source.settle with
  | .json (.array values) => some (values.map .json)
  | .yaml (.sequence _ items _) path =>
    some (items.zipIdx.map fun (item, index) => .yaml item (.index path index))
  | _ => none

/-- The members of a mapping, if the source is one. A key is read before its value. -/
def Source.members? (source : Source) : Option (List (Source × Source)) :=
  match source.settle with
  | .json (.object members) =>
    some (members.map fun (key, value) => (.json (.string key), .json value))
  | .yaml (.mapping _ members _) path =>
    some (members.map fun (key, node) => (.yaml key path, .yaml node (valuePath path key)))
  | _ => none

def Source.isEmpty (source : Source) : Bool :=
  match source.settle with
  | .json _ => false
  | .yaml node _ => isEmptyScalar node

def Source.isJson : Source → Bool
  | .json _ => true
  | .yaml _ _ => false

def readItems {α : Type} (reader : Reader α) : List Source → Except Fault (List α)
  | [] => .ok []
  | item :: rest => do
    let value ← reader item
    return value :: (← readItems reader rest)

def listOf {α : Type} (reader : Reader α) : Reader (List α) := fun source =>
  match source.items? with
  | some items => source.locate (readItems reader items)
  | none => if source.isEmpty then .ok [] else source.refuse "a sequence"

def readMembers {α : Type} (reader : Reader α) (done : Entries α) :
    List (Source × Source) → Except Fault (Entries α)
  | [] => .ok done
  | (key, source) :: rest => do
    let name ← text key
    let value ← reader source
    readMembers reader (done.insert name value) rest

def mapOf {α : Type} (reader : Reader α) : Reader (Entries α) := fun source =>
  match source.members? with
  | some members => source.locate (readMembers reader [] members)
  | none => if source.isEmpty then .ok [] else source.refuse "a map"

end RouteDoc.Reading
