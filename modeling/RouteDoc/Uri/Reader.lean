import RouteDoc.Text.Address
import RouteDoc.Uri.Basic

namespace RouteDoc.Uri

inductive Fault where
  | badOctet (index : Nat)
  | badChar (index : Nat)
  | badAddress (index : Nat)
deriving DecidableEq, Repr

def Fault.message : Fault → String
  | badOctet index => "invalid percent-encoded octet at index " ++ toString index
  | badChar index => "unexpected character at index " ++ toString index
  | badAddress index => "invalid IPv6 address at index " ++ toString index

def isUnreserved (c : Char) : Bool := c.isAlphanum || "-._~".contains c

def isDelimiter (c : Char) : Bool := "!$&'()*+,;=".contains c

def isSchemeChar (c : Char) : Bool := c.isAlphanum || "+-.".contains c

def isSegmentChar (c : Char) : Bool := isUnreserved c || isDelimiter c || c = ':' || c = '@'

def isPathChar (c : Char) : Bool := isSegmentChar c || c = '/'

/-- Characters of a query and of a fragment. -/
def isQueryChar (c : Char) : Bool := isPathChar c || c = '?'

def isUserChar (c : Char) : Bool := isUnreserved c || isDelimiter c || c = ':'

def isHostChar (c : Char) : Bool := isUnreserved c || isDelimiter c

/-- Takes encoded bytes and allowed characters from the front. -/
def take (allowed : Char → Bool) : Nat → List Char → Except Fault (List Char × List Char)
  | index, '%' :: high :: low :: rest => do
    if Text.isHex high && Text.isHex low then
      let (taken, rest) ← take allowed (index + 3) rest
      return ('%' :: high :: low :: taken, rest)
    else throw (.badOctet index)
  | index, c :: rest => do
    if c = '%' then throw (.badOctet index)
    else if allowed c then
      let (taken, rest) ← take allowed (index + 1) rest
      return (c :: taken, rest)
    else return ([], c :: rest)
  | _, [] => return ([], [])

/-- A query or a fragment behind its mark. -/
def takePart (mark : Char) (index : Nat) (text : List Char) :
    Except Fault (Option (List Char) × List Char) := do
  match text with
  | c :: rest =>
    if c = mark then
      let (taken, rest) ← take isQueryChar (index + 1) rest
      return (some taken, rest)
    else return (none, text)
  | [] => return (none, text)

/-- A host in brackets, with the text after it. -/
def takeAddress (index : Nat) (text : List Char) : Except Fault (List Char × List Char) :=
  let inner := (text.drop 1).takeWhile (· ≠ ']')
  match text.drop (inner.length + 1) with
  | ']' :: rest =>
    if Text.isBracketedAddress inner then .ok ('[' :: inner ++ [']'], rest)
    else .error (.badAddress (index + 1))
  | _ => .error (.badAddress (index + 1))

/-- A host, in brackets or not. -/
def takeHost (index : Nat) (text : List Char) : Except Fault (List Char × List Char) :=
  if text.head? = some '[' then takeAddress index text else take isHostChar index text

/-- A port is a run of digits behind a colon. -/
def takePort : List Char → List Char × List Char
  | ':' :: rest => let (digits, rest) := rest.span Char.isDigit; (':' :: digits, rest)
  | text => ([], text)

/-- The index of the first character after a port's colon that is no digit. -/
def badPort? (index : Nat) : List Char → Option Nat
  | [] => none
  | c :: rest => if c.isDigit then badPort? (index + 1) rest else some index

/-- The text between the two slashes and the path. -/
def takeAuthority (index : Nat) (text : List Char) : Except Fault (List Char × List Char) := do
  let (taken, rest) ← take isUserChar index text
  match taken, rest with
  | _, '@' :: more => do
    let (host, rest) ← takeHost (index + taken.length + 1) more
    let (port, rest) := takePort rest
    return (taken ++ '@' :: host ++ port, rest)
  | [], '[' :: _ => do
    let (host, rest) ← takeAddress index text
    let (port, rest) := takePort rest
    return (host ++ port, rest)
  | _, _ =>
    let host := taken.takeWhile (· ≠ ':')
    let port := taken.drop (host.length + 1)
    if port.contains ':' then
      throw (.badChar (index + taken.length - 1 - (taken.reverse.takeWhile (· ≠ ':')).length))
    match badPort? (index + host.length + 1) port with
    | some bad => throw (.badChar bad)
    | none => return (taken, rest)

def toText (chars : List Char) : String := String.ofList chars

/-- The path and what follows it. -/
def readFromPath (start : Uri) (index : Nat) (text : List Char) : Except Fault Uri := do
  let (path, rest) ← take isPathChar index text
  if start.authority.isSome ∧ path ≠ [] ∧ path.head? ≠ some '/' then throw (.badChar index)
  let index := index + path.length
  let (query, rest) ← takePart '?' index rest
  let index := index + (query.map (·.length + 1)).getD 0
  let (fragment, rest) ← takePart '#' index rest
  let index := index + (fragment.map (·.length + 1)).getD 0
  if rest ≠ [] then throw (.badChar index)
  return { start with
    path := toText path, query := query.map toText, fragment := fragment.map toText }

/-- What follows the scheme. -/
def readFromAuthority (start : Uri) (index : Nat) (text : List Char) : Except Fault Uri := do
  match text with
  | '/' :: '/' :: rest => do
    let (authority, rest) ← takeAuthority (index + 2) rest
    readFromPath { start with authority := some (toText authority) }
      (index + 2 + authority.length) rest
  | _ => readFromPath start index text

/-- The first segment of a reference without scheme has no colon. -/
def readRelative (text : List Char) : Except Fault Uri := do
  let (segment, rest) ← take (fun c => isSegmentChar c && c ≠ ':') 0 text
  if rest.head? = some ':' then throw (.badChar segment.length)
  readFromPath {} 0 text

/-- Reads a URI or a relative reference. -/
def parse (text : String) : Except Fault Uri :=
  let chars := text.toList
  let (scheme, rest) := chars.span isSchemeChar
  match rest with
  | ':' :: rest =>
    if (scheme.head?.map Char.isAlpha).getD false then
      readFromAuthority { scheme := some (toText scheme) } (scheme.length + 1) rest
    else .error (.badChar 0)
  | _ => if chars.take 2 = ['/', '/'] then readFromAuthority {} 0 chars else readRelative chars

end RouteDoc.Uri
