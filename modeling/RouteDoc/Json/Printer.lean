import RouteDoc.Json.Basic
import RouteDoc.Text.Hex

namespace RouteDoc.Json

open Text

/-- A quote, a backslash and the control characters are escaped; all else stands as it is. -/
def escape (c : Char) : List Char :=
  if c = '"' then ['\\', '"']
  else if c = '\\' then ['\\', '\\']
  else if c = '\x08' then ['\\', 'b']
  else if c = '\x0c' then ['\\', 'f']
  else if c = '\n' then ['\\', 'n']
  else if c = '\r' then ['\\', 'r']
  else if c = '\t' then ['\\', 't']
  else if c.toNat < 32 then ['\\', 'u', '0', '0', hexDigit (c.toNat / 16), hexDigit (c.toNat % 16)]
  else [c]

def quote (s : String) : String :=
  "\"" ++ String.ofList (s.toList.flatMap escape) ++ "\""

mutual

/-- The value on one line, without blanks. -/
def compact : Json → String
  | null => "null"
  | bool true => "true"
  | bool false => "false"
  | number n => n.render .json
  | string s => quote s
  | array items => "[" ++ compactItems items ++ "]"
  | object members => "\x7b" ++ compactMembers members ++ "\x7d"
termination_by structural value => value

def compactItems : List Json → String
  | [] => ""
  | [item] => compact item
  | item :: rest => compact item ++ "," ++ compactItems rest

def compactMembers : List (String × Json) → String
  | [] => ""
  | [(key, value)] => quote key ++ ":" ++ compact value
  | (key, value) :: rest => quote key ++ ":" ++ compact value ++ "," ++ compactMembers rest

end

def margin (depth : Nat) : String :=
  "\n" ++ String.ofList (List.replicate (2 * depth) ' ')

mutual

/-- One item a line below an opening bracket; empty collections stay closed. -/
def indented (depth : Nat) : Json → String
  | null => "null"
  | bool true => "true"
  | bool false => "false"
  | number n => n.render .json
  | string s => quote s
  | array [] => "[]"
  | array items => "[" ++ indentedItems (depth + 1) items ++ margin depth ++ "]"
  | object [] => "\x7b\x7d"
  | object members => "\x7b" ++ indentedMembers (depth + 1) members ++ margin depth ++ "\x7d"
termination_by structural value => value

def indentedItems (depth : Nat) : List Json → String
  | [] => ""
  | [item] => margin depth ++ indented depth item
  | item :: rest => margin depth ++ indented depth item ++ "," ++ indentedItems depth rest

def indentedMembers (depth : Nat) : List (String × Json) → String
  | [] => ""
  | [(key, value)] => margin depth ++ quote key ++ ": " ++ indented depth value
  | (key, value) :: rest =>
    margin depth ++ quote key ++ ": " ++ indented depth value ++ "," ++ indentedMembers depth rest

end

def pretty (value : Json) : String := indented 0 value

end RouteDoc.Json
