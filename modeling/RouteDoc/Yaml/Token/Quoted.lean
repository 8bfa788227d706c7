import RouteDoc.Yaml.Cursor

namespace RouteDoc.Yaml.Quoted

open Text (hexValue? natOfBase)

/-- Line breaks and blanks that are not yet part of the text. -/
structure Gap where
  blanks : List Char := []
  first : List Char := []
  further : List Char := []
  /-- A line break was passed. -/
  broken : Bool := false

/-- What a gap reads as: a lone line feed is a space, and of several the first is dropped. -/
def Gap.text (gap : Gap) : List Char :=
  if gap.broken then
    if gap.first.head? = some '\n' then (if gap.further = [] then [' '] else gap.further)
    else gap.first ++ gap.further
  else gap.blanks

/-- Adds a line break to a gap. -/
def Gap.addBreak (gap : Gap) (text : List Char) : Gap :=
  if gap.broken then { gap with further := gap.further ++ text }
  else { gap with blanks := [], first := text, broken := true }

/-- The character of an escape of one letter. -/
def simpleEscape? : Char → Option Char
  | '0' => some '\x00'
  | 'a' => some '\x07'
  | 'b' => some '\x08'
  | 't' | '\t' => some '\t'
  | 'n' => some '\n'
  | 'v' => some '\x0b'
  | 'f' => some '\x0c'
  | 'r' => some '\r'
  | 'e' => some '\x1b'
  | ' ' => some ' '
  | '"' => some '"'
  | '/' => some '/'
  | '\\' => some '\\'
  | 'N' => some '\u0085'
  | '_' => some '\u00a0'
  | 'L' => some '\u2028'
  | 'P' => some '\u2029'
  | _ => none

/-- The number of digits that follow a letter that announces a code point. -/
def codeLength? : Char → Option Nat
  | 'x' => some 2
  | 'u' => some 4
  | 'U' => some 8
  | _ => none

/-- The character of a numeric escape, with the cursor at its digits. -/
def codePoint (cursor : Cursor) (start : Mark) (length : Nat) : Except Fault (Char × Cursor) :=
  let digits := cursor.rest.take length
  if digits.length < length ∨ digits.any (fun c => (hexValue? c).isNone) then
    cursor.fault "while parsing a quoted scalar" start "did not find expected hexdecimal number"
  else
    let value := natOfBase 16 digits
    if (0xD800 ≤ value ∧ value ≤ 0xDFFF) ∨ 0x10FFFF < value then
      cursor.fault "while parsing a quoted scalar" start
        "found invalid Unicode character escape code"
    else .ok (Char.ofNat value, cursor.advance length)

/-- The character after a backslash, with the cursor at the backslash. -/
def escape (cursor : Cursor) (start : Mark) : Except Fault (Char × Cursor) :=
  match (cursor.peekAt 1).bind simpleEscape?, (cursor.peekAt 1).bind codeLength? with
  | some c, _ => .ok (c, cursor.advance 2)
  | none, some length => codePoint (cursor.advance 2) start length
  | none, none => cursor.fault "while parsing a quoted scalar" start
    "found unknown escape character"

/-- Blanks and line breaks up to the next other character. -/
def gapFrom : Nat → Cursor → Gap → Gap × Cursor
  | 0, cursor, gap => (gap, cursor)
  | fuel + 1, cursor, gap =>
    if cursor.atBreak then gapFrom fuel cursor.skipBreak (gap.addBreak cursor.breakText)
    else
      match cursor.peek with
      | some c =>
        if isBlank c then
          gapFrom fuel cursor.skip
            (if gap.broken then gap else { gap with blanks := gap.blanks ++ [c] })
        else (gap, cursor)
      | none => (gap, cursor)

/-- The rest of a scalar after its opening quote; `done` holds what was read, last first. -/
def tailFrom (single : Bool) (start : Mark) : Nat → List Char → Cursor →
    Except Fault (String × Cursor)
  | 0, done, cursor => .ok (String.ofList done.reverse, cursor)
  | fuel + 1, done, cursor => do
    if cursor.atAnyMarker then
      cursor.fault "while scanning a quoted scalar" start "found unexpected document indicator"
    else
      match cursor.rest with
      | [] => cursor.fault "while scanning a quoted scalar" start "found unexpected end of stream"
      | c :: rest =>
        if single && c = '\'' && rest.head? = some '\'' then
          tailFrom single start fuel ('\'' :: done) (cursor.advance 2)
        else if c = (if single then '\'' else '"') then
          .ok (String.ofList done.reverse, cursor.skip)
        else if !single && c = '\\' && rest.head?.any isBreak then
          let (gap, cursor) := gapFrom fuel cursor.skip.skipBreak { broken := true }
          tailFrom single start fuel (gap.text.reverse ++ done) cursor
        else if !single && c = '\\' then
          let (escaped, cursor) ← escape cursor start
          tailFrom single start fuel (escaped :: done) cursor
        else if isBlank c || isBreak c then
          let (gap, cursor) := gapFrom (fuel + 1) cursor {}
          tailFrom single start fuel (gap.text.reverse ++ done) cursor
        else tailFrom single start fuel (c :: done) cursor.skip

/-- The scalar whose opening quote stands at the cursor. -/
def scan (cursor : Cursor) (single : Bool) : Except Fault (String × Cursor) :=
  tailFrom single cursor.mark (2 * cursor.rest.length + 2) [] cursor.skip

end RouteDoc.Yaml.Quoted
