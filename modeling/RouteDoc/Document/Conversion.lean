import RouteDoc.Document.Gate
import RouteDoc.Schema.Downgrade
import RouteDoc.Schema.PatternFold

namespace RouteDoc

namespace Conversion

/-- A document with one operation whose response has this schema. -/
def trial (schema : Json) : Json :=
  .object [
    ("openapi", .string "3.0.0"),
    ("info", .object [("title", .string "Schema conversion check"), ("version", .string "1.0.0")]),
    ("paths", .object [("/get/some/", .object [("get", .object [("responses", .object [("200",
      .object [("description", .string "Converted schema"), ("content",
        .object [("application/json",
        .object [("schema", schema)])])])])])])]),
    ("components", .object [])]

/-- The schema in the dialect: pattern properties are folded before the dialect changes. -/
def toDialect (schema : Json) : Json := Schema.downgrade (Schema.foldPatterns schema)

/-- A converted schema passes if its trial document does. -/
def prove (checker : Check.Checker) (converted : Json) : Except Fault Unit :=
  passes checker (trial converted)

end Conversion

/-- Converts a schema that compiles; with a checker the result has to pass in its trial document. -/
def convert (compiler : Compiler) (checker : Option Check.Checker) (schema : Json) :
    Except Fault Json := do
  compiler schema
  let converted := Conversion.toDialect schema
  match checker with
  | some checker => Conversion.prove checker converted
  | none => pure ()
  return converted

end RouteDoc
