import RouteDoc.Text.Quoted
import RouteDoc.Yaml.Scalar

namespace RouteDoc.Reading

/-- What stands where something else was expected. -/
inductive Found where
  | null
  | unit
  | bool (b : Bool)
  | integer (n : Int)
  | wide (n : Int)
  | float (numeral : String)
  | text (s : String)
  | sequence
  | mapping
  | enumeration
deriving DecidableEq, Repr

def Found.words : Found → String
  | .null => "null"
  | .unit => "unit value"
  | .bool b => "boolean `" ++ (if b then "true" else "false") ++ "`"
  | .integer n => "integer `" ++ toString n ++ "`"
  | .wide n => "integer `" ++ toString n ++ "` as " ++ if n < 0 then "i128" else "u128"
  | .float numeral => "floating point `" ++ numeral ++ "`"
  | .text s => "string " ++ Text.quoted s
  | .sequence => "sequence"
  | .mapping => "map"
  | .enumeration => "enum"

inductive Cause where
  | wrongType (found : Found) (expected : String)
  | wrongValue (found : Found) (expected : String)
  | wrongLength (length : Nat) (expected : String)
  | missing (field : String)
  | duplicate (field : String)
  | unknownVariant (name : String) (known : List String)
  /-- A number that no JSON number stands for. -/
  | outOfRange
  /-- A tagged value among members that are not known by name. -/
  | taggedMember
deriving DecidableEq, Repr

def Cause.message : Cause → String
  | wrongType found expected => "invalid type: " ++ found.words ++ ", expected " ++ expected
  | wrongValue found expected => "invalid value: " ++ found.words ++ ", expected " ++ expected
  | wrongLength length expected => "invalid length " ++ toString length ++ ", expected " ++ expected
  | missing field => "missing field `" ++ field ++ "`"
  | duplicate field => "duplicate field `" ++ field ++ "`"
  | unknownVariant name known =>
    "unknown variant `" ++ name ++ "`, expected one of " ++
      ", ".intercalate (known.map fun variant => "`" ++ variant ++ "`")
  | outOfRange => "JSON number out of range"
  | taggedMember => "untagged and internally tagged enums do not support enum input"

/-- The way from the root of a document to a node. -/
inductive Path where
  | root
  | key (parent : Path) (name : String)
  | index (parent : Path) (i : Nat)
  /-- Below a key that is no scalar. -/
  | unknown (parent : Path)
deriving DecidableEq, Repr

/-- A name follows its parent's words and a point, and at the root stands alone. -/
def Path.words : Path → String
  | .root => "."
  | .key .root name => name
  | .key parent name => parent.words ++ "." ++ name
  | .index parent i => parent.words ++ "[" ++ toString i ++ "]"
  | .unknown .root => "?"
  | .unknown parent => parent.words ++ ".?"

inductive Fault where
  /-- The text is readable but says something unexpected. -/
  | content (cause : Cause) (place : Option (Yaml.Mark × Path))
  /-- The text is not readable. -/
  | text (fault : Yaml.Fault)
  | manyDocuments
deriving DecidableEq, Repr

def Fault.message : Fault → String
  | .content cause none => cause.message
  | .content cause (some (mark, path)) =>
    (if path = .root then "" else path.words ++ ": ") ++ cause.message ++ mark.suffix
  | .text fault => fault.message
  | .manyDocuments => "deserializing from YAML containing more than one document is not supported"

/-- Names the place of a fault that has none yet. -/
def Fault.place (mark : Yaml.Mark) (path : Path) : Fault → Fault
  | .content cause none => .content cause (some (mark, path))
  | other => other

end RouteDoc.Reading
