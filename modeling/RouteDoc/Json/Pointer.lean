import RouteDoc.Json.Basic

namespace RouteDoc.Json.Pointer

/-- Writes a key as one segment. -/
def encodeChars : List Char → List Char
  | [] => []
  | '~' :: rest => '~' :: '0' :: encodeChars rest
  | '/' :: rest => '~' :: '1' :: encodeChars rest
  | c :: rest => c :: encodeChars rest

def encode (key : String) : String := String.ofList (encodeChars key.toList)

/-- Replaces each two-character escape `~digit` by one character. -/
def unescape (digit plain : Char) : List Char → List Char
  | '~' :: c :: rest => if c = digit then plain :: unescape digit plain rest
    else '~' :: unescape digit plain (c :: rest)
  | c :: rest => c :: unescape digit plain rest
  | [] => []

/-- Reads a segment: slashes first, then tildes. -/
def decodeChars (segment : List Char) : List Char :=
  unescape '0' '~' (unescape '1' '/' segment)

def decode (segment : String) : String := String.ofList (decodeChars segment.toList)

/-- A pointer extended by one key. -/
def child (location key : String) : String := location ++ "/" ++ encode key

end RouteDoc.Json.Pointer
