namespace RouteDoc

/-- A part keeps its spelling. -/
structure Uri where
  scheme : Option String := none
  authority : Option String := none
  path : String := ""
  query : Option String := none
  fragment : Option String := none
deriving DecidableEq, Repr, Inhabited

namespace Uri

/-- A part with the mark before it, if the part is there. -/
def after (mark : String) (part : Option String) : String := (part.map (mark ++ ·)).getD ""

def render (uri : Uri) : String :=
  (uri.scheme.map (· ++ ":")).getD "" ++ after "//" uri.authority ++ uri.path ++
    after "?" uri.query ++ after "#" uri.fragment

/-- The same place as a whole. -/
def withoutFragment (uri : Uri) : Uri := { uri with fragment := none }

end Uri
end RouteDoc
