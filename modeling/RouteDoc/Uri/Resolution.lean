import RouteDoc.Text.Percent
import RouteDoc.Uri.Reader

namespace RouteDoc.Uri

/-- Segments without `.` and `..`; `done` holds the ones before, last first. -/
def foldDots (done : List (List Char)) : List (List Char) → List (List Char)
  | [] => done.reverse
  | [['.']] => ([] :: done).reverse
  | [['.', '.']] => ([] :: done.tail).reverse
  | segment :: rest =>
    if segment = ['.'] then foldDots done rest
    else if segment = ['.', '.'] then foldDots done.tail rest
    else foldDots (segment :: done) rest

/-- A path that starts with a slash, without dot segments. -/
def withoutDots (path : String) : String :=
  match path.toList with
  | '/' :: rest => "/" ++ toText (['/'].intercalate (foldDots [] (Text.splitAt '/' rest)))
  | _ => path

/-- The base's path up to its last slash, with the reference's path behind it. -/
def mergePaths (base : Uri) (path : String) : String :=
  if base.authority.isSome ∧ base.path = "" then "/" ++ path
  else toText ((base.path.toList.reverse.dropWhile (· ≠ '/')).reverse) ++ path

/-- The target of a reference seen from a base. -/
def resolve (base reference : Uri) : Uri :=
  if reference.scheme.isSome then { reference with path := withoutDots reference.path }
  else if reference.authority.isSome then
    { reference with scheme := base.scheme, path := withoutDots reference.path }
  else if reference.path = "" then
    { base with
      query := if reference.query.isSome then reference.query else base.query
      fragment := reference.fragment }
  else
    { base with
      path := withoutDots (
        if reference.path.startsWith "/" then reference.path else mergePaths base reference.path)
      query := reference.query
      fragment := reference.fragment }

/-- Encoded bytes in upper case, decoded where the character needs no encoding. -/
def normalChars : List Char → List Char
  | '%' :: high :: low :: rest =>
    (match Text.Percent.byte? high low with
    | some byte =>
      if byte < 128 && isUnreserved (Char.ofNat byte) then [Char.ofNat byte]
      else ['%', high.toUpper, low.toUpper]
    | none => ['%', high, low]) ++ normalChars rest
  | c :: rest => c :: normalChars rest
  | [] => []

def normalText (text : String) : String := toText (normalChars text.toList)

/-- The host in lower case, what stands before it as it is. -/
def normalAuthority (authority : String) : String :=
  let chars := normalChars authority.toList
  let host := (chars.reverse.takeWhile (· ≠ '@')).reverse
  toText (chars.take (chars.length - host.length) ++ host.map Char.toLower)

def normalize (uri : Uri) : Uri where
  scheme := uri.scheme.map String.toLower
  authority := uri.authority.map normalAuthority
  path :=
    let path := normalText uri.path
    if uri.scheme.isSome then withoutDots path else path
  query := uri.query.map normalText
  fragment := uri.fragment.map normalText

end RouteDoc.Uri
