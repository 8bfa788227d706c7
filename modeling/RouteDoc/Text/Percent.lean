import RouteDoc.Text.Hex
import RouteDoc.Text.Utf8

namespace RouteDoc.Text.Percent

/-- The byte of two hexadecimal digits. -/
def byte? (high low : Char) : Option Nat := do
  return (← hexValue? high) * 16 + (← hexValue? low)

/-- `pending` holds the bytes of the current run, last first. -/
def decodeFrom (pending : List Nat) : List Char → List Char
  | '%' :: high :: low :: rest =>
    match byte? high low with
    | some byte => decodeFrom (byte :: pending) rest
    | none => Utf8.lossy pending.reverse ++ '%' :: decodeFrom [] (high :: low :: rest)
  | c :: rest => Utf8.lossy pending.reverse ++ c :: decodeFrom [] rest
  | [] => Utf8.lossy pending.reverse

def decode (text : String) : String := String.ofList (decodeFrom [] text.toList)

/-- The bytes of a text, with encoded bytes decoded. -/
def bytesFrom : List Char → List Nat
  | '%' :: high :: low :: rest =>
    match byte? high low with
    | some byte => byte :: bytesFrom rest
    | none => '%'.toNat :: bytesFrom (high :: low :: rest)
  | c :: rest => (String.singleton c).toUTF8.toList.map UInt8.toNat ++ bytesFrom rest
  | [] => []

end RouteDoc.Text.Percent
