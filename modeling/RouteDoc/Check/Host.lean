import RouteDoc.Text.Address
import RouteDoc.Text.Lowercase
import RouteDoc.Text.Percent
import RouteDoc.Text.Punycode

namespace RouteDoc.Check.Host

open Text (hexValue? natOfBase splitAt isBracketedAddress)

/-- A part of a numeric address in its base; an empty numeral after the base's mark is zero. -/
def numberPart? (part : List Char) : Option Nat :=
  let digits (base : Nat) (text : List Char) : Option Nat :=
    if text.all fun c => (hexValue? c).any (· < base) then some (natOfBase base text) else none
  match part with
  | [] => none
  | '0' :: 'x' :: rest | '0' :: 'X' :: rest => digits 16 rest
  | '0' :: c :: rest => digits 8 (c :: rest)
  | text => digits 10 text

/-- The parts of a domain, without an empty last one. -/
def parts (domain : List Char) : List (List Char) :=
  let all := splitAt '.' domain
  if 1 < all.length ∧ all.getLast? = some [] then all.dropLast else all

/-- A domain whose last part is a number must be a numeric address. -/
def endsInNumber (domain : List Char) : Bool :=
  match (parts domain).getLast? with
  | none | some [] => false
  | some last => last.all Char.isDigit || (numberPart? last).isSome

/-- At most four numbers: bytes, and a last one that fills the rest. -/
def isNumericAddress (domain : List Char) : Bool :=
  let all := parts domain
  match all.mapM numberPart? with
  | none => false
  | some numbers =>
    numbers.length ≤ 4 && numbers.dropLast.all (· < 256) &&
      numbers.getLast?.any fun last => last < Nat.pow 256 (5 - numbers.length)

/-- ASCII characters that no domain contains. -/
def isForbiddenAscii (c : Char) : Bool :=
  c.toNat < 33 || c.toNat = 127 || "%#/:<>?@[\\]^|".contains c

/-- Characters that stand for nothing in a domain. -/
def isIgnored (n : Nat) : Bool :=
  n = 0xAD ∨ n = 0x34F ∨ n = 0x200B ∨ n = 0x2060 ∨ n = 0x2064 ∨ n = 0xFEFF ∨
    (0x180B ≤ n ∧ n ≤ 0x180F) ∨ (0xFE00 ≤ n ∧ n ≤ 0xFE0F)

/-- Characters beyond ASCII that no domain contains. -/
def isForbiddenBeyond (n : Nat) : Bool :=
  n < 0xA0 ∨ n = 0x200E ∨ n = 0x200F ∨ (0x202A ≤ n ∧ n ≤ 0x202E) ∨ (0x2061 ≤ n ∧ n ≤ 0x206F) ∨
    (0xE000 ≤ n ∧ n < 0xF900) ∨ (0xFFF0 ≤ n ∧ n ≤ 0xFFFF) ∨ 0xE0000 ≤ n

/-- Wide forms stand for ASCII characters, and ideographic full stops for points. -/
def mapChar (c : Char) : Option (List Char) :=
  let n := c.toNat
  if n < 128 then some [c.toLower]
  else if isIgnored n then some []
  else if n = 0x3002 ∨ n = 0xFF61 then some ['.']
  else if 0xFF01 ≤ n ∧ n ≤ 0xFF5E then some [(Char.ofNat (n - 0xFEE0)).toLower]
  else if isForbiddenBeyond n then none
  else some (Text.lowerChar c)

/-- An encoded label says something that only an encoded label can say. -/
def isEncodedLabel (label : List Char) : Bool :=
  match Text.Punycode.decode? (label.drop 4) with
  | none => false
  | some codes =>
    codes.any (128 ≤ ·) && codes.all fun code =>
      code < 128 ||
        (!isIgnored code && !isForbiddenBeyond code &&
          mapChar (Char.ofNat code) = some [Char.ofNat code])

def isLabel (label : List Char) : Bool :=
  if label.take 4 = "xn--".toList then isEncodedLabel label else true

/-- A host of a scheme that knows domains. -/
def isDomain (bytes : List Nat) : Bool :=
  match Text.Utf8.decode? bytes with
  | none => false
  | some text =>
    match text.toList.mapM mapChar with
    | none => false
    | some mapped =>
      let domain := mapped.flatten
      domain ≠ [] && !domain.any isForbiddenAscii && (splitAt '.' domain).all isLabel &&
        (!endsInNumber domain || isNumericAddress domain)

/-- The text between brackets. -/
def bracketed? : List Char → Option (List Char)
  | '[' :: rest => if rest.getLast? = some ']' then some rest.dropLast else none
  | _ => none

/-- A host with a domain or an address. -/
def isHost (host : List Char) : Bool :=
  if host.head? = some '[' then (bracketed? host).any isBracketedAddress
  else isDomain (Text.Percent.bytesFrom host)

/-- A host of a scheme of its own, which is not looked into. -/
def isOpaqueHost (host : List Char) : Bool :=
  if host.head? = some '[' then (bracketed? host).any isBracketedAddress
  else !host.any fun c => c.toNat = 0 || "\t\n\r #/:<>?@[\\]^|".contains c

end RouteDoc.Check.Host
