namespace RouteDoc.Schema

inductive Draft where
  | four
  | six
  | seven
deriving DecidableEq, Repr, Inhabited

namespace Draft

def all : List Draft := [four, six, seven]

/-- Where drafts are published. -/
def site (scheme : String) : String := scheme ++ "://json-schema.org/"

/-- The place below which everything of a draft stands. -/
def folder : Draft → String
  | four => site "http" ++ "draft-04/"
  | six => site "http" ++ "draft-06/"
  | seven => site "http" ++ "draft-07/"

/-- The place of the draft's own schema, without a fragment. -/
def place (draft : Draft) : String := draft.folder ++ "schema"

/-- Drafts after the seventh, by where they stand, with the parts of their own schemas. -/
def later : List (String × List String) := [
  (site "https" ++ "draft/2019-09/",
    ["core", "applicator", "validation", "meta-data", "format", "content"]),
  (site "https" ++ "draft/2020-12/",
    ["core", "applicator", "unevaluated", "validation",
    "meta-data", "format-annotation", "content"])]

/-- The draft that is known by a name. Later drafts are taken for the seventh. -/
def named? (name : String) : Option Draft :=
  if later.any fun (folder, _) => folder ++ "schema" = name then some seven
  else all.find? fun draft => draft.place = name

/-- The keyword that gives a schema its identity. -/
def idKey : Draft → String
  | four => "id"
  | six | seven => "$id"

end Draft
end RouteDoc.Schema
