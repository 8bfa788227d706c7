namespace RouteDoc.CommandLine

inductive OptionKind where
  | text
  /-- A path is never empty. -/
  | path
  | flag
deriving DecidableEq, Repr

/-- Why the arguments name no task. -/
inductive Stop where
  | help
  | version
  | misuse
deriving DecidableEq, Repr

/-- The options known at one place of the command line. -/
structure Grammar where
  options : List (String × OptionKind)
  /-- The version can be asked for. -/
  hasVersion : Bool := false

/-- Values by option; a flag has an empty value. -/
abbrev Given := List (String × String)

def Given.get? (given : Given) (name : String) : Option String :=
  (given.find? fun entry => entry.1 = name).map Prod.snd

def Given.has (given : Given) (name : String) : Bool := (given.get? name).isSome

/-- An option is given once at most. -/
def give (name value : String) (kind : OptionKind) (given : Given) : Except Stop Given :=
  if given.has name || (kind = .path && value = "") then .error .misuse
  else .ok (given ++ [(name, value)])

/-- Splits `name=value`. -/
def splitValue (text : List Char) : String × Option String :=
  let name := text.takeWhile (· ≠ '=')
  (String.ofList name,
    if name.length < text.length then some (String.ofList (text.drop (name.length + 1))) else none)

/-- A lone hyphen is a word. -/
def isWord (token : String) : Bool := !token.startsWith "-" || token = "-"

def special? (grammar : Grammar) (name : String) : Option Stop :=
  if name = "help" ∨ name = "h" then some .help
  else if (name = "version" ∨ name = "V") ∧ grammar.hasVersion then some .version
  else none

/-- The option of a long token, with the value that stands in the token itself. -/
def longOption (grammar : Grammar) (token : String) :
    Except Stop (String × OptionKind × Option String) :=
  let (name, value) := splitValue (token.toList.drop 2)
  match special? grammar name, grammar.options.find? fun entry => entry.1 = name with
  | some stop, _ => if value.isNone ∧ 1 < name.length then .error stop else .error .misuse
  | none, some (_, kind) => .ok (name, kind, value)
  | none, none => .error .misuse

/-- Reads options up to the first word, which is returned with what follows it. -/
def scan (grammar : Grammar) (given : Given) :
    List String → Except Stop (Given × Option (String × List String))
  | [] => .ok (given, none)
  | token :: rest =>
    if token = "--" then if rest = [] then .ok (given, none) else .error .misuse
    else if isWord token then .ok (given, some (token, rest))
    else if !token.startsWith "--" then
      .error ((special? grammar (String.ofList ((token.toList.drop 1).take 1))).getD .misuse)
    else
      match longOption grammar token with
      | .error stop => .error stop
      | .ok (name, .flag, none) => do scan grammar (← give name "" .flag given) rest
      | .ok (_, .flag, some _) => .error .misuse
      | .ok (name, kind, some value) => do scan grammar (← give name value kind given) rest
      | .ok (name, kind, none) =>
        match rest with
        | value :: rest =>
          if isWord value then do scan grammar (← give name value kind given) rest
          else .error .misuse
        | [] => .error .misuse

def logOption : String × OptionKind := ("log-level", .text)

def mainGrammar : Grammar := ⟨[logOption], true⟩

def assembleGrammar : Grammar where
  options := [logOption, ("routes", .path), ("module", .text), ("title", .text),
    ("description", .text),
    ("env", .text), ("template", .path), ("strict", .flag), ("check", .flag), ("validate", .flag),
    ("output", .path)]

def convertGrammar : Grammar where
  options := [logOption, ("schema", .path), ("no-validate", .flag), ("output", .path)]

structure AssembleTask where
  routes : String
  module : String
  title : Option String := none
  description : Option String := none
  environment : String := "default"
  template : Option String := none
  /-- A component name taken twice is an error. -/
  strict : Bool := false
  /-- Request schemas are compiled first. -/
  check : Bool := false
  validate : Bool := false
  output : Option String := none
deriving DecidableEq, Repr

structure ConvertTask where
  schema : String
  validate : Bool := true
  output : Option String := none
deriving DecidableEq, Repr

inductive Task where
  | assemble (task : AssembleTask)
  | convert (task : ConvertTask)
deriving DecidableEq, Repr

structure Invocation where
  logLevel : String
  task : Task
deriving DecidableEq, Repr

/-- Variables of the environment. -/
abbrev Variables := List (String × String)

def Variables.get? (settings : Variables) (name : String) : Option String :=
  (settings.find? fun entry => entry.1 = name).map Prod.snd

/-- The options of a task; no word may follow them. -/
def scanTask (grammar : Grammar) (arguments : List String) : Except Stop Given := do
  match ← scan grammar [] arguments with
  | (given, none) => return given
  | (_, some _) => throw .misuse

def need (given : Given) (name : String) : Except Stop String :=
  match given.get? name with
  | some value => .ok value
  | none => .error .misuse

/-- A template is named by an option or else by the environment. -/
def templateOf (settings : Variables) (given : Given) : Except Stop (Option String) :=
  match given.get? "template", settings.get? "SCHEMA2OAS_TEMPLATE" with
  | some path, _ => .ok (some path)
  | none, some path => if path = "" then .error .misuse else .ok (some path)
  | none, none => .ok none

def assembleTask (settings : Variables) (given : Given) : Except Stop Task := do
  let template ← templateOf settings given
  return .assemble {
    routes := ← need given "routes"
    module := ← need given "module"
    title := given.get? "title"
    description := given.get? "description"
    environment := ((given.get? "env").or (settings.get? "SCHEMA2OAS_ENV")).getD "default"
    template
    strict := given.has "strict"
    check := given.has "check"
    validate := given.has "validate"
    output := given.get? "output" }

def convertTask (given : Given) : Except Stop Task := do
  return .convert {
    schema := ← need given "schema"
    validate := !given.has "no-validate"
    output := given.get? "output" }

/-- Help on a task, or on all. -/
def helpOn (topics : List String) : Stop :=
  match topics with
  | [] | ["assemble"] | ["convert"] | ["help"] => .help
  | _ => .misuse

/-- Reads all arguments. The log level may stand before the task or among its options. -/
def parse (settings : Variables) (arguments : List String) : Except Stop Invocation := do
  match ← scan mainGrammar [] arguments with
  | (_, none) => throw .misuse
  | (given, some ("assemble", rest)) => do
    let inner ← scanTask assembleGrammar rest
    finish given inner (← assembleTask settings inner)
  | (given, some ("convert", rest)) => do
    let inner ← scanTask convertGrammar rest
    finish given inner (← convertTask inner)
  | (_, some ("help", topics)) => throw (helpOn topics)
  | (_, some _) => throw .misuse
where
  finish (outer inner : Given) (task : Task) : Except Stop Invocation :=
    .ok ⟨((inner.get? "log-level").or (outer.get? "log-level")).getD "warn", task⟩

end RouteDoc.CommandLine
