import RouteDoc.Document.Fault
import RouteDoc.Schema.Compilation

namespace RouteDoc

/-- Accepts a schema or says why not. -/
abbrev Compiler := Json → Except Fault Unit

/-- The compiler for the schemas of a draft. -/
def Compiler.ofDraft (draft : Schema.Draft) : Compiler := fun schema =>
  match Schema.compile draft schema with
  | .ok () => .ok ()
  | .error rejection => .error (.schemaRejected rejection.message)

/-- The compiler used where no other is given. -/
def Compiler.usual : Compiler := Compiler.ofDraft .seven

/-- A failure if a check has findings. -/
def passes (checker : Check.Checker) (document : Json) : Except Fault Unit :=
  match checker document with
  | [] => .ok ()
  | issues => .error (.documentRejected issues)

end RouteDoc
