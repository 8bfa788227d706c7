import RouteDoc.Text.Address

namespace RouteDoc.CommandLine.Path

def parts (path : String) : List String :=
  ((Text.splitAt '/' path.toList).map String.ofList).filter (· ≠ "")

/-- The steps of a path; a slash at the end asks for a folder. -/
def steps (path : String) : List String := parts path ++ if path.endsWith "/" then ["."] else []

def isAbsolute (path : String) : Bool := path.startsWith "/"

/-- Steps as they count for the parent and the file name: points within a path do not. -/
def names (path : String) : List String :=
  match parts path with
  | [] => []
  | first :: rest =>
    (if first = "." ∧ isAbsolute path then [] else [first]) ++ rest.filter (· ≠ ".")

/-- The path of the folder around a file; the file may stand right here. -/
def parent? (path : String) : Option String :=
  match (names path).dropLast with
  | [] => if isAbsolute path ∧ names path ≠ [] then some "/" else none
  | folders => some ((if isAbsolute path then "/" else "") ++ "/".intercalate folders)

/-- What stands behind the last point of the file name, unless the name begins with that point. -/
def extension? (path : String) : Option String :=
  match (names path).getLast? with
  | none => none
  | some name =>
    let chars := name.toList
    let last := (chars.reverse.takeWhile (· ≠ '.')).reverse
    if name = ".." ∨ chars.length ≤ last.length + 1 then none else some (String.ofList last)

end RouteDoc.CommandLine.Path
