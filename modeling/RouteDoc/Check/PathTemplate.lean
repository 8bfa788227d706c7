namespace RouteDoc.Check

/-- The text up to the first closing brace, if there is one. -/
def upToBrace? (text : List Char) : Option (List Char) :=
  match text.span (· ≠ '\x7d') with
  | (_, []) => none
  | (name, _ :: _) => some name

/-- The text up to the next opening brace. -/
def upToOpening (text : List Char) : List Char := text.takeWhile (· ≠ '\x7b')

/-- One name for each opening brace that is closed before the next one opens. -/
def templateNames : List Char → List (List Char)
  | [] => []
  | c :: rest =>
    if c = '\x7b' then (upToBrace? (upToOpening rest)).toList ++ templateNames rest
    else templateNames rest

/-- The parameters that a path names. -/
def templateParameters (path : String) : List String :=
  (templateNames path.toList).map String.ofList

end RouteDoc.Check
