import RouteDoc.Json.Reader
import RouteDoc.Yaml.Token

namespace RouteDoc.Yaml

inductive Resolved where
  | null
  | bool (b : Bool)
  | integer (n : Int)
  /-- An integer that does not fit 64 bits. -/
  | wide (n : Int)
  | float (x : Binary64)
  /-- An infinity or no number at all, by its name. -/
  | special (name : String)
  | text (s : String)
deriving Repr, Inhabited

namespace Scalar

open Text (hexValue? natOfBase natOfDigits)

def isNull (text : List Char) : Bool :=
  ["null", "Null", "NULL", "~"].contains (String.ofList text)

def bool? (text : List Char) : Option Bool :=
  if ["true", "True", "TRUE"].contains (String.ofList text) then some true
  else if ["false", "False", "FALSE"].contains (String.ofList text) then some false
  else none

/-- Digits after a leading zero are text, such as `017`. -/
def zeroLed (text : List Char) : Bool :=
  let digits := match text with
    | '-' :: rest | '+' :: rest => rest
    | other => other
  match digits with
  | '0' :: rest => rest ≠ [] && rest.all Char.isDigit
  | _ => false

/-- A numeral in a base, without a sign. -/
def numeral? (base : Nat) (digits : List Char) : Option Nat :=
  if digits ≠ [] ∧ digits.all (fun c => (hexValue? c).any (· < base)) then
    some (natOfBase base digits)
  else none

/-- A numeral with the letter of its base, or a decimal one. -/
def unsigned? : List Char → Option Nat
  | '0' :: 'x' :: rest => numeral? 16 rest
  | '0' :: 'o' :: rest => numeral? 8 rest
  | '0' :: 'b' :: rest => numeral? 2 rest
  | digits => numeral? 10 digits

def integer? (text : List Char) : Option Int :=
  if zeroLed text then none
  else
    match text with
    | '-' :: rest => (unsigned? rest).map fun n => -(n : Int)
    | '+' :: rest => (unsigned? rest).map Int.ofNat
    | digits => (unsigned? digits).map Int.ofNat

/-- An integer that fits 128 bits. -/
def fitsWide (n : Int) : Bool := -Int.pow 2 127 ≤ n ∧ n < Int.pow 2 128

/-- Digits with at most one point between or around them, and an optional exponent. -/
def finite? (negative : Bool) (text : List Char) : Option Binary64 := do
  let (whole, rest) := text.span Char.isDigit
  let (fraction, rest) := match rest with
    | '.' :: rest => rest.span Char.isDigit
    | rest => ([], rest)
  guard (whole ≠ [] ∨ fraction ≠ [])
  let (exponent, rest) ← Json.optionalExponent? rest
  guard (rest = [])
  Binary64.ofDecimal? negative
    ⟨natOfDigits (whole ++ fraction), exponent.getD 0 - fraction.length⟩

def isInfinity (text : List Char) : Bool :=
  [".inf", ".Inf", ".INF"].contains (String.ofList text)

def float? (text : List Char) : Option Resolved :=
  if [".nan", ".NaN", ".NAN"].contains (String.ofList text) then some (.special "NaN")
  else
    match text with
    | '-' :: rest =>
      if isInfinity rest then some (.special "-inf") else (finite? true rest).map .float
    | '+' :: rest =>
      if isInfinity rest then some (.special "inf") else (finite? false rest).map .float
    | _ => if isInfinity text then some (.special "inf") else (finite? false text).map .float

def number? (text : List Char) : Option Resolved :=
  match integer? text with
  | some n => if Number.fits n then some (.integer n)
    else if fitsWide n then some (.wide n) else none
  | none => none

/-- The reading of a scalar without a tag or quotes. -/
def plain (text : String) : Resolved :=
  let chars := text.toList
  if text = "" ∨ isNull chars then .null
  else
    match bool? chars with
    | some b => .bool b
    | none =>
      match number? chars with
      | some found => found
      | none =>
        if zeroLed chars then .text text
        else (float? chars).getD (.text text)

/-- A tag of the core set asks for a reading that the text does not have. -/
structure Mismatch where
  expected : String

def coreTag (name : String) : String := "tag:yaml.org,2002:" ++ name

def isLocal (tag : String) : Bool := tag.startsWith "!"

/-- The reading of any scalar. -/
def resolve (text : String) (style : Style) (tag : Option String) : Except Mismatch Resolved :=
  let chars := text.toList
  let orElse (found : Option Resolved) (expected : String) : Except Mismatch Resolved :=
    match found with
    | some value => .ok value
    | none => .error ⟨expected⟩
  match tag with
  | none => .ok (if style = .plain then plain text else .text text)
  | some tag =>
    if tag = coreTag "bool" then orElse ((bool? chars).map .bool) "a boolean"
    else if tag = coreTag "int" then orElse (number? chars) "an integer"
    else if tag = coreTag "float" then orElse (float? chars) "a float"
    else if tag = coreTag "null" then orElse (if isNull chars then some .null else none) "null"
    else if isLocal tag ∧ style = .plain then .ok (plain text)
    else .ok (.text text)

end Scalar
end RouteDoc.Yaml
