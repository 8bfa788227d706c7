import RouteDoc.Json.Basic
import RouteDoc.Text.Hex

namespace RouteDoc.Json

open Text

/-- The four blanks between tokens. -/
def skipBlanks (text : List Char) : List Char :=
  text.dropWhile fun c => c = ' ' ∨ c = '\n' ∨ c = '\r' ∨ c = '\t'

/-- Four hexadecimal digits. -/
def hexQuad? : List Char → Option (Nat × List Char)
  | a :: b :: c :: d :: rest => do
    let value := ((← hexValue? a) * 16 + (← hexValue? b)) * 256 +
      (← hexValue? c) * 16 + (← hexValue? d)
    return (value, rest)
  | _ => none

/-- A code point below the surrogates or above them, or a pair of surrogates. -/
def unicodeEscape? (text : List Char) : Option (Char × List Char) := do
  let (high, rest) ← hexQuad? text
  if 0xD800 ≤ high ∧ high < 0xDC00 then
    match rest with
    | '\\' :: 'u' :: more =>
      let (low, rest) ← hexQuad? more
      if 0xDC00 ≤ low ∧ low < 0xE000 then
        return (Char.ofNat (0x10000 + (high - 0xD800) * 0x400 + (low - 0xDC00)), rest)
      else none
    | _ => none
  else if 0xDC00 ≤ high ∧ high < 0xE000 then none
  else return (Char.ofNat high, rest)

def simpleEscape? : Char → Option Char
  | '"' => some '"'
  | '\\' => some '\\'
  | '/' => some '/'
  | 'b' => some '\x08'
  | 'f' => some '\x0c'
  | 'n' => some '\n'
  | 'r' => some '\r'
  | 't' => some '\t'
  | _ => none

/-- The rest of a string after its opening quote; `done` holds what was read, last first. -/
def stringTail? : Nat → List Char → List Char → Option (String × List Char)
  | 0, _, _ => none
  | _ + 1, _, [] => none
  | _ + 1, done, '"' :: rest => some (String.ofList done.reverse, rest)
  | fuel + 1, done, '\\' :: 'u' :: rest => do
    let (c, rest) ← unicodeEscape? rest
    stringTail? fuel (c :: done) rest
  | fuel + 1, done, '\\' :: c :: rest => do
    stringTail? fuel ((← simpleEscape? c) :: done) rest
  | fuel + 1, done, c :: rest =>
    if c.toNat < 32 ∨ c = '\\' then none else stringTail? fuel (c :: done) rest

def takeDigits (text : List Char) : List Char × List Char :=
  text.span Char.isDigit

/-- The exponent after an `e`, with its optional sign. -/
def exponent? : List Char → Option (Int × List Char)
  | c :: rest =>
    let (sign, rest) : Int × List Char :=
      if c = '-' then (-1, rest) else if c = '+' then (1, rest) else (1, c :: rest)
    match takeDigits rest with
    | ([], _) => none
    | (digits, rest) => some (sign * natOfDigits digits, rest)
  | [] => none

/-- An integer that fits stays one; a fraction, an exponent or `-0` makes a binary64 value. -/
def numberOf? (negative : Bool) (whole : List Char) (fraction : Option (List Char))
    (exponent : Option Int) : Option Number :=
  let value := natOfDigits whole
  let signed : Int := if negative then -value else value
  if fraction.isNone ∧ exponent.isNone ∧ Number.fits signed ∧ ¬(negative ∧ value = 0) then
    some (.integer signed)
  else
    let digits := fraction.getD []
    (Binary64.ofDecimal? negative
      ⟨natOfDigits (whole ++ digits), exponent.getD 0 - digits.length⟩).map .binary

/-- The digits after a point, if there is one. -/
def fraction? : List Char → Option (Option (List Char) × List Char)
  | '.' :: rest =>
    match takeDigits rest with
    | ([], _) => none
    | (digits, rest) => some (some digits, rest)
  | rest => some (none, rest)

def optionalExponent? : List Char → Option (Option Int × List Char)
  | c :: rest =>
    if c = 'e' ∨ c = 'E' then (exponent? rest).map fun (e, rest) => (some e, rest)
    else some (none, c :: rest)
  | [] => some (none, [])

def unsignedNumber? (negative : Bool) (text : List Char) : Option (Number × List Char) := do
  let (whole, rest) := takeDigits text
  guard (whole ≠ [] ∧ (whole.length = 1 ∨ whole.head? ≠ some '0'))
  let (fraction, rest) ← fraction? rest
  let (exponent, rest) ← optionalExponent? rest
  return (← numberOf? negative whole fraction exponent, rest)

def number? : List Char → Option (Number × List Char)
  | '-' :: rest => unsignedNumber? true rest
  | text => unsignedNumber? false text

mutual

/-- One value, with the text after it. -/
def value? : Nat → List Char → Option (Json × List Char)
  | 0, _ => none
  | fuel + 1, text =>
    match skipBlanks text with
    | 'n' :: 'u' :: 'l' :: 'l' :: rest => some (null, rest)
    | 't' :: 'r' :: 'u' :: 'e' :: rest => some (bool true, rest)
    | 'f' :: 'a' :: 'l' :: 's' :: 'e' :: rest => some (bool false, rest)
    | '"' :: rest => (stringTail? (rest.length + 1) [] rest).map fun (s, rest) => (string s, rest)
    | '[' :: rest =>
      match skipBlanks rest with
      | ']' :: rest => some (array [], rest)
      | rest => items? fuel [] rest
    | '\x7b' :: rest =>
      match skipBlanks rest with
      | '\x7d' :: rest => some (object [], rest)
      | rest => members? fuel [] rest
    | text => (number? text).map fun (n, rest) => (number n, rest)

/-- The items after an opening bracket; `done` holds those read, last first. -/
def items? : Nat → List Json → List Char → Option (Json × List Char)
  | 0, _, _ => none
  | fuel + 1, done, text => do
    let (item, rest) ← value? fuel text
    match skipBlanks rest with
    | ',' :: rest => items? fuel (item :: done) rest
    | ']' :: rest => some (array (item :: done).reverse, rest)
    | _ => none

/-- The members after an opening brace; a repeated key keeps its first place and last value. -/
def members? : Nat → List (String × Json) → List Char → Option (Json × List Char)
  | 0, _, _ => none
  | fuel + 1, done, text =>
    match skipBlanks text with
    | '"' :: rest => do
      let (key, rest) ← stringTail? (rest.length + 1) [] rest
      match skipBlanks rest with
      | ':' :: rest =>
        let (value, rest) ← value? fuel rest
        match skipBlanks rest with
        | ',' :: rest => members? fuel ((key, value) :: done) rest
        | '\x7d' :: rest => some (object (Entries.ofList ((key, value) :: done).reverse), rest)
        | _ => none
      | _ => none
    | _ => none

end

/-- The value a whole text stands for. -/
def parse? (text : String) : Option Json := do
  let chars := text.toList
  let (value, rest) ← value? (2 * chars.length + 2) chars
  guard (skipBlanks rest = [])
  return value

end RouteDoc.Json
