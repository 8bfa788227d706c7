import RouteDoc.Yaml.Cursor
import RouteDoc.Text.Utf8

namespace RouteDoc.Yaml.Tag

open Text (hexValue?)

/-- Characters of a tag or of a tag prefix; `full` admits brackets and commas. -/
def isUriChar (full : Bool) (c : Char) : Bool :=
  isWordChar c || ";/?:@&=+$.!~*'()%".contains c || (full && (c = ',' ∨ c = '[' ∨ c = ']'))

def context (directive : Bool) : String :=
  if directive then "while parsing a %TAG directive" else "while parsing a tag"

/-- The byte of an escape at the cursor. -/
def escapedByte? (cursor : Cursor) : Option Nat :=
  match cursor.rest with
  | '%' :: high :: low :: _ => do return (← hexValue? high) * 16 + (← hexValue? low)
  | _ => none

def byteCount (lead : Nat) : Nat :=
  if lead < 0x80 then 1
  else if 0xC0 ≤ lead ∧ lead < 0xE0 then 2
  else if 0xE0 ≤ lead ∧ lead < 0xF0 then 3
  else if 0xF0 ≤ lead ∧ lead < 0xF8 then 4
  else 0

def moreBytes (directive : Bool) (start : Mark) :
    Nat → List Nat → Cursor → Except Fault (List Nat × Cursor)
  | 0, bytes, cursor => .ok (bytes, cursor)
  | more + 1, bytes, cursor =>
    match escapedByte? cursor with
    | none => cursor.fault (context directive) start "did not find URI escaped octet"
    | some byte =>
      if 0x80 ≤ byte ∧ byte < 0xC0 then
        moreBytes directive start more (bytes ++ [byte]) (cursor.advance 3)
      else cursor.fault (context directive) start "found an incorrect trailing UTF-8 octet"

/-- One escaped character. -/
def escaped (directive : Bool) (start : Mark) (cursor : Cursor) :
    Except Fault (List Char × Cursor) := do
  match escapedByte? cursor with
  | none => cursor.fault (context directive) start "did not find URI escaped octet"
  | some lead =>
    match byteCount lead with
    | 0 => cursor.fault (context directive) start "found an incorrect leading UTF-8 octet"
    | count + 1 =>
      let (bytes, cursor) ← moreBytes directive start count [lead] (cursor.advance 3)
      return (Text.Utf8.lossy bytes, cursor)

def uriFrom (full directive : Bool) (start : Mark) :
    Nat → List Char → Cursor → Except Fault (List Char × Cursor)
  | 0, done, cursor => .ok (done, cursor)
  | fuel + 1, done, cursor => do
    match cursor.peek with
    | some '%' =>
      let (c, cursor) ← escaped directive start cursor
      uriFrom full directive start fuel (done ++ c) cursor
    | some c =>
      if isUriChar full c then uriFrom full directive start fuel (done ++ [c]) cursor.skip
      else return (done, cursor)
    | none => return (done, cursor)

/-- The rest of a tag; `head` is what was read of it as a handle. -/
def uri (full directive : Bool) (head : List Char) (start : Mark) (cursor : Cursor) :
    Except Fault (String × Cursor) := do
  let (text, next) ← uriFrom full directive start (cursor.rest.length + 1) [] cursor
  if text = [] ∧ head = [] then next.fault (context directive) start "did not find expected tag URI"
  else return (String.ofList (head.drop 1 ++ text), next)

/-- An exclamation mark, word characters and perhaps a second mark. -/
def handle (directive : Bool) (start : Mark) (cursor : Cursor) :
    Except Fault (List Char × Cursor) :=
  if !cursor.at? '!' then
    cursor.fault (if directive then "while scanning a directive" else "while scanning a tag") start
      "did not find expected '!'"
  else
    let (word, next) := cursor.skip.span isWordChar
    if next.at? '!' then .ok ('!' :: word ++ ['!'], next.skip)
    else if directive && word ≠ [] then
      next.fault "while parsing a tag directive" start "did not find expected '!'"
    else .ok ('!' :: word, next)

/-- The tag `!<...>`, `!handle!suffix` or `!suffix` at the cursor, as handle and suffix. -/
def scan (cursor : Cursor) (inFlow : Bool) : Except Fault (String × String × Cursor) := do
  let start := cursor.mark
  let (name, suffix, next) ←
    if cursor.peekAt 1 = some '<' then do
      let (suffix, next) ← uri true false [] start (cursor.advance 2)
      if next.at? '>' then pure ("", suffix, next.skip)
      else next.fault "while scanning a tag" start "did not find the expected '>'"
    else do
      let (name, next) ← handle false start cursor
      if 2 ≤ name.length ∧ name.getLast? = some '!' then
        let (suffix, next) ← uri false false [] start next
        pure (String.ofList name, suffix, next)
      else
        let (suffix, next) ← uri false false name start next
        pure (if suffix = "" then ("", "!", next) else ("!", suffix, next))
  if next.blankAt 0 || (inFlow && next.at? ',') then return (name, suffix, next)
  else next.fault "while scanning a tag" start "did not find expected whitespace or line break"

/-- The name of an anchor or alias whose indicator stands at the cursor. -/
def anchorName (cursor : Cursor) (isAlias : Bool) : Except Fault (String × Cursor) :=
  let (word, next) := cursor.skip.span isWordChar
  let ends := next.blankAt 0 || next.peek.any fun c => "?:,]\x7d%@`".contains c
  if word ≠ [] ∧ ends then .ok (String.ofList word, next)
  else
    next.fault (if isAlias then "while scanning an alias" else "while scanning an anchor")
      cursor.mark
      "did not find expected alphabetic or numeric character"

def versionContext : String := "while scanning a %YAML directive"

def versionNumber (start : Mark) (cursor : Cursor) : Except Fault (Nat × Cursor) :=
  let (digits, next) := cursor.span Char.isDigit
  if digits = [] then cursor.fault versionContext start "did not find expected version number"
  else if 9 < digits.length then
    (cursor.advance 9).fault versionContext start "found extremely long version number"
  else .ok (Text.natOfDigits digits, next)

inductive Directive where
  | version (major minor : Nat)
  | tag (handle start : String)

def directiveBody (start : Mark) (name : List Char) (cursor : Cursor) :
    Except Fault (Directive × Cursor) := do
  if name = "YAML".toList then
    let (major, next) ← versionNumber start cursor.skipBlanks
    if next.at? '.' then
      let (minor, next) ← versionNumber start next.skip
      return (.version major minor, next)
    else next.fault versionContext start "did not find expected digit or '.' character"
  else if name = "TAG".toList then
    let context := "while scanning a %TAG directive"
    let (name, next) ← handle true start cursor.skipBlanks
    if !next.atBlank then next.fault context start "did not find expected whitespace"
    else
      let (value, next) ← uri true true [] start next.skipBlanks
      if next.blankAt 0 then return (.tag (String.ofList name) value, next)
      else next.fault context start "did not find expected whitespace or line break"
  else cursor.fault "while scanning a directive" start "found unknown directive name"

/-- The directive whose percent sign stands at the cursor, with its line. -/
def directive (cursor : Cursor) : Except Fault (Directive × Mark × Cursor) := do
  let start := cursor.mark
  let context := "while scanning a directive"
  let (name, next) := cursor.skip.span isWordChar
  if name = [] then next.fault context start "could not find expected directive name"
  else if !next.blankAt 0 then
    next.fault context start "found unexpected non-alphabetical character"
  else
    let (found, next) ← directiveBody start name next
    let stop := next.mark
    let next := next.skipBlanks.skipComment
    if next.atLineEnd then return (found, stop, next.skipBreak)
    else next.fault context start "did not find expected comment or line break"

end RouteDoc.Yaml.Tag
