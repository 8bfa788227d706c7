import RouteDoc.Json.Basic
import RouteDoc.Yaml.Quoting

namespace RouteDoc.Yaml.Printer

open Quoting (line)

def margin (indent : Nat) : String := String.ofList (Quoting.spaces indent)

/-- A key on a line of its own is short and unbroken. -/
def isSimpleKey (key : String) : Bool := key.utf8ByteSize ≤ 128 && !key.toList.any Yaml.isBreak

/-- A key without the line end behind it. -/
def keyText (key : String) : String := String.ofList ((line 0 key).toList.dropLast)

mutual

/-- A value that stands in a column, with the line end after it. -/
def value (column : Nat) : Json → String
  | .null => "null\n"
  | .bool true => "true\n"
  | .bool false => "false\n"
  | .number n => n.render .yaml ++ "\n"
  | .string s => line column s
  | .array [] => "[]\n"
  | .array items => list column "" items
  | .object [] => "\x7b\x7d\n"
  | .object members => mapping column "" members
termination_by structural value => value

/-- Items with their dashes in a column; `lead` stands before the first. -/
def list (column : Nat) (lead : String) : List Json → String
  | [] => ""
  | item :: rest => lead ++ "- " ++ value (column + 2) item ++ list column (margin column) rest

/-- Members with their keys in a column; a key that is not simple has a mark. -/
def mapping (column : Nat) (lead : String) : List (String × Json) → String
  | [] => ""
  | (key, member) :: rest =>
    lead ++
    (if isSimpleKey key then keyText key ++ ":" ++ beside column member
      else "? " ++ line (column + 2) key ++ margin column ++ ": " ++ value (column + 2) member) ++
    mapping column (margin column) rest

/-- What follows the colon of a key in a column. -/
def beside (column : Nat) : Json → String
  | .array (item :: rest) => "\n" ++ list column (margin column) (item :: rest)
  | .object (member :: rest) => "\n" ++ mapping (column + 2) (margin (column + 2)) (member :: rest)
  | .array [] => " []\n"
  | .object [] => " \x7b\x7d\n"
  | .string s => " " ++ line (column + 2) s
  | .null => " null\n"
  | .bool true => " true\n"
  | .bool false => " false\n"
  | .number n => " " ++ n.render .yaml ++ "\n"

end

/-- A whole document. -/
def document : Json → String
  | .string s => line 2 s
  | other => value 0 other

end RouteDoc.Yaml.Printer
