import RouteDoc.Check.Host
import RouteDoc.Text.Blank

namespace RouteDoc.Check.ServerUrl

/-- Schemes differ in how they name hosts. -/
inductive Scheme where
  | file
  | special
  | other
deriving DecidableEq

def schemeOf (name : String) : Scheme :=
  if name = "file" then .file
  else if ["http", "https", "ws", "wss", "ftp"].contains name then .special
  else .other

/-- Slashes, and where the scheme is known also backslashes. -/
def isSlash (scheme : Scheme) (c : Char) : Bool := c = '/' || (scheme ≠ .other && c = '\\')

def endsAuthority (scheme : Scheme) (c : Char) : Bool := isSlash scheme c || c = '?' || c = '#'

/-- The scheme in lower case and what follows its colon. -/
def scheme? (text : List Char) : Option (String × List Char) :=
  match text with
  | first :: _ =>
    let (name, rest) := text.span fun c => c.isAlphanum || c = '+' || c = '-' || c = '.'
    match rest with
    | ':' :: rest =>
      if first.isAlpha then some (String.ofList (name.map Char.toLower), rest) else none
    | _ => none
  | [] => none

/-- The host: up to a colon outside brackets. -/
def hostSpan (inBrackets : Bool) : List Char → List Char × List Char
  | [] => ([], [])
  | c :: rest =>
    if c = ':' && !inBrackets then ([], c :: rest)
    else
      let (host, after) := hostSpan ((inBrackets || c = '[') && c ≠ ']') rest
      (c :: host, after)

/-- A port is a number below 65536, or nothing at all. -/
def isPort (text : List Char) : Bool :=
  let digits := text.takeWhile (· ≠ '\\')
  digits.all Char.isDigit && Text.natOfDigits digits < 65536

/-- What the last at sign leaves of an authority, and whether a user stands before it. -/
def afterUser (authority : List Char) : List Char × Bool :=
  if authority.contains '@' then
    let host := (authority.reverse.takeWhile (· ≠ '@')).reverse
    let user := authority.take (authority.length - host.length - 1)
    (host, user ≠ [] && user ≠ [':'])
  else (authority, false)

/-- The text after the slashes names a host, perhaps with a user and a port. -/
def isAuthority (scheme : Scheme) (text : List Char) : Bool :=
  let authority := text.takeWhile (!endsAuthority scheme ·)
  let (rest, hasUser) := afterUser authority
  let (host, port) := hostSpan false rest
  if host = [] then
    scheme = .other && port = [] && !hasUser && !(authority.head? = some '@' && authority ≠ text)
  else
    (if scheme = .special then Host.isHost host else Host.isOpaqueHost host) &&
      (port = [] || isPort (port.drop 1))

/-- A letter with a colon or a bar names a drive, not a host. -/
def isDrive : List Char → Bool
  | [letter, mark] => letter.isAlpha && (mark = ':' || mark = '|')
  | _ => false

/-- The text after the colon of a file URL. -/
def isFileRest (text : List Char) : Bool :=
  match text with
  | a :: b :: rest =>
    if isSlash .file a && isSlash .file b then
      let host := rest.takeWhile (!endsAuthority .file ·)
      host = [] || isDrive host || Host.isHost host
    else true
  | _ => true

/-- The text after a scheme and its colon, where the base has this or another scheme. -/
def isSchemeRest (name : String) (text : List Char) : Bool :=
  match schemeOf name with
  | .file => isFileRest text
  | .special =>
    let slashes := (text.takeWhile (isSlash .special)).length
    (slashes < 2 && name = "https") || isAuthority .special (text.drop slashes)
  | .other =>
    match text with
    | '/' :: '/' :: rest => isAuthority .other rest
    | _ => true

/-- A text without a scheme, relative to the base. -/
def isRelative (text : List Char) : Bool :=
  let slashes := (text.takeWhile (isSlash .special)).length
  slashes < 2 || isAuthority .special (text.drop slashes)

/-- Control characters around a URL do not count. -/
def trimControls (text : List Char) : List Char :=
  let drop (text : List Char) : List Char := text.dropWhile fun c => c.toNat ≤ 32
  (drop (drop text).reverse).reverse

/-- The text has no white space and can be read as a URL or a reference. -/
def isValid (url : String) : Bool :=
  if url = "" ∨ url.toList.any Text.isBlank then false
  else
    let text := trimControls url.toList
    match scheme? text with
    | some (name, rest) => isSchemeRest name rest
    | none => isRelative text

end RouteDoc.Check.ServerUrl
