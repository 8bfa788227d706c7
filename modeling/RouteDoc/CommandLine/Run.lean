import RouteDoc.Check.Structure
import RouteDoc.CommandLine.Arguments
import RouteDoc.CommandLine.Files
import RouteDoc.CommandLine.Log
import RouteDoc.Document.Assembly
import RouteDoc.Document.Conversion
import RouteDoc.Reading.Document
import RouteDoc.Yaml.Printer

namespace RouteDoc.CommandLine

/-- Why a task fails. -/
inductive Trouble where
  | missing (path : String)
  | unreadable (path : String) (fault : Reading.Fault)
  | refused (fault : Fault)
  | file (fault : FileFault)

def Trouble.message : Trouble → String
  | missing path => "Operation failed: Input file not found: " ++ Text.quoted path
  | unreadable path fault =>
    "Operation failed: Failed to parse " ++ Text.quoted path ++ ": " ++ fault.message
  | refused fault => fault.message
  | file fault => "IO Error: " ++ fault.message

/-- What a task prints besides its notes, if it prints anything. -/
abbrev Printed := Option String

section

variable {m : Type → Type} [Monad m]

/-- A task that makes notes and may fail. -/
abbrev Work (m : Type → Type) := ExceptT Trouble (StateT (List Note) m)

def note (level : Level) (source : Source) (text : String) : Work m Unit :=
  modify (· ++ [⟨level, source, text⟩])

def orFail {α : Type} (wrap : Fault → Trouble) : Except Fault α → Work m α
  | .ok value => pure value
  | .error fault => throw (wrap fault)

def onFiles {α : Type} (action : m (Except FileFault α)) : Work m α := do
  match ← (liftM action : StateT (List Note) m (Except FileFault α)) with
  | .ok value => return value
  | .error fault => throw (.file fault)

def textOf (bytes : List Nat) : Work m String :=
  match Text.Utf8.decode? bytes with
  | some text => pure text
  | none => throw (.file .notText)

/-- Reads a model from a file of YAML or JSON. -/
def readFrom {α : Type} (files : Files m) (reader : Reading.Reader α) (path : String) :
    Work m α := do
  let present ← (liftM (files.present path) : StateT (List Note) m Bool)
  if !present then throw (.missing path)
  match Reading.readText reader (← textOf (← onFiles (files.read path))) with
  | .ok value => return value
  | .error fault => throw (.unreadable path fault)

/-- Text for a file, by the file's extension. -/
def renderFor (path : String) (value : Json) : String :=
  match Path.extension? path with
  | some "yaml" | some "yml" => Yaml.Printer.document value
  | _ => value.pretty

/-- Writes a value to a file, whose folder is made if need be, or returns it for printing. -/
def deliver (files : Files m) (value : Json) : Option String → Work m Printed
  | none => return some (value.pretty ++ "\n")
  | some path => do
    match Path.parent? path with
    | some parent =>
      let present ← (liftM (files.present parent) : StateT (List Note) m Bool)
      if !present then onFiles (files.makeFolder parent)
    | none => pure ()
    onFiles (files.write path (renderFor path value))
    return none

def templateFrom (files : Files m) : Option String → Work m Document.Template
  | none => return Document.Template.base
  | some path => do
    match Reading.templateOfBytes (← onFiles (files.read path)) with
    | .ok template => return template
    | .error (.file fault) => throw (.file fault)
    | .error fault => throw (.refused fault)

/-- The empty document of a task; an unknown environment is noted. -/
def startFrom (template : Document.Template) (task : AssembleTask) : Work m Document := do
  match Document.start template task.environment task.module ⟨task.title, task.description⟩
      (if task.strict then .fail else .overwrite) with
  | .ok document => return document
  | .error fault =>
    if let .wrongEnvironment name := fault then
      note .error .document ("no server template for environment '" ++ name ++ "'")
    throw (.refused fault)

/-- Replaced components are noted, also if the assembly fails later. -/
def noteOverwritten (document : Document) : Work m Unit :=
  document.components.overwritten.forM fun (place, name) =>
    note .warn .registry ("overwriting components." ++ place.key ++ "." ++ name)

def assemble (files : Files m) (task : AssembleTask) : Work m Printed := do
  let routes ← readFrom files (Reading.listOf Reading.route) task.routes
  let start ← startFrom (← templateFrom files task.template) task
  let adding := if task.check then Document.addRoutesChecked Compiler.usual routes
    else Document.addRoutes routes
  let (result, document) := adding.run.run start
  noteOverwritten document
  orFail .refused result
  if task.validate then orFail .refused (document.validate Check.structural)
  deliver files document.toJson task.output

/-- Pattern lists that lose entries are noted. -/
def notePatterns (schema : Json) : Work m Unit :=
  (Schema.droppedPatterns schema).forM fun count =>
    note .warn .normalization
      ("patternProperties declares " ++ toString count ++ " patterns; only the first is kept")

def convert (files : Files m) (task : ConvertTask) : Work m Printed := do
  let schema ← readFrom files Reading.value task.schema
  orFail .refused (Compiler.usual schema)
  notePatterns schema
  let converted := Conversion.toDialect schema
  if task.validate then orFail .refused (Conversion.prove Check.structural converted)
  deliver files converted task.output

/-- How a run ends. -/
structure Outcome where
  status : Nat
  output : String := ""
  errors : String := ""
deriving DecidableEq, Repr

def versionText : String := "schema2oas-cli 0.0.1\n"

def usageText : String :=
  "Usage: schema2oas [--log-level LEVEL] COMMAND\n\n" ++
  "  assemble --routes FILE --module NAME [--title TEXT] [--description TEXT] [--env NAME]\n" ++
  "           [--template FILE] [--strict] [--check] [--validate] [--output FILE]\n" ++
  "  convert  --schema FILE [--no-validate] [--output FILE]\n"

/-- Ends a task: a failure is noted as well as told. -/
def conclude (filter : Filter) (result : Except Trouble Printed) (notes : List Note) : Outcome :=
  match result with
  | .ok printed => { status := 0, output := printed.getD "", errors := filter.render notes }
  | .error trouble =>
    { status := 1
      errors := filter.render (notes ++ [⟨.error, .program, trouble.message⟩]) ++
        trouble.message ++ "\n" }

def perform (files : Files m) : Task → Work m Printed
  | .assemble task => assemble files task
  | .convert task => convert files task

/-- Runs the command with its arguments. -/
def run (files : Files m) (settings : Variables) (arguments : List String) : m Outcome := do
  match parse settings arguments with
  | .error .help => return { status := 0, output := usageText }
  | .error .version => return { status := 0, output := versionText }
  | .error .misuse => return { status := 2, errors := usageText }
  | .ok invocation =>
    match Filter.choose (settings.get? "RUST_LOG") invocation.logLevel with
    | .error fault =>
      return {
        status := 1
        errors := "Logger Error: Failed to parse log specification: " ++ fault ++ "\n" }
    | .ok filter =>
      let (result, notes) ← ((perform files invocation.task).run).run []
      return conclude filter result notes

end

end RouteDoc.CommandLine
