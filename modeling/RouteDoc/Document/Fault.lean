import RouteDoc.Check.Issue
import RouteDoc.Component.Registry

namespace RouteDoc

/-- Why a file cannot be read or written. -/
inductive FileFault where
  | notFound
  | notADirectory
  | isADirectory
  | notText
  /-- Any other cause in the words of the system. -/
  | other (words : String)
deriving DecidableEq, Repr

def FileFault.message : FileFault → String
  | notFound => "No such file or directory (os error 2)"
  | notADirectory => "Not a directory (os error 20)"
  | isADirectory => "Is a directory (os error 21)"
  | notText => "stream did not contain valid UTF-8"
  | other words => words

inductive Fault where
  /-- The template has no server for this environment. -/
  | wrongEnvironment (name : String)
  | schemaRejected (reason : String)
  | documentRejected (issues : List Check.Issue)
  | duplicate (cause : Component.Duplicate)
  | file (cause : FileFault)
  | template (reason : String)
deriving DecidableEq, Repr

def Fault.message : Fault → String
  | wrongEnvironment _ => "WRONG_TYPE"
  | schemaRejected reason => reason
  | documentRejected issues => (Json.array (issues.map Check.Issue.toJson)).compact
  | duplicate cause => cause.message
  | file cause => "IO Error: " ++ cause.message
  | template reason => "General Error: Failed to parse document template: " ++ reason

end RouteDoc
