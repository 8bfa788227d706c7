import RouteDoc.Text.Blank
import RouteDoc.Text.Lowercase
import RouteDoc.Text.Address

namespace RouteDoc.CommandLine

inductive Level where
  | error
  | warn
  | info
  | debug
  | trace
deriving DecidableEq, Repr

namespace Level

def all : List Level := [error, warn, info, debug, trace]

def key : Level → String
  | error => "error"
  | warn => "warn"
  | info => "info"
  | debug => "debug"
  | trace => "trace"

def label : Level → String
  | error => "ERROR"
  | warn => "WARN"
  | info => "INFO"
  | debug => "DEBUG"
  | trace => "TRACE"

/-- The weight of a level grows with its detail. -/
def detail : Level → Nat
  | error => 1
  | warn => 2
  | info => 3
  | debug => 4
  | trace => 5

end Level

/-- The parts of the program that make notes. -/
inductive Source where
  | program
  | document
  | registry
  | normalization
deriving DecidableEq, Repr

def Source.key : Source → String
  | program => "schema2oas"
  | document => "schema2oas_core::oas::document"
  | registry => "schema2oas_core::oas::registry"
  | normalization => "schema2oas_core::oas::normalization"

structure Note where
  level : Level
  source : Source
  text : String
deriving DecidableEq, Repr

def Note.line (note : Note) : String :=
  note.level.label ++ " [" ++ note.source.key ++ "] " ++ note.text ++ "\n"

/-- The most detail shown for sources whose key begins like this. -/
structure FilterRule where
  start : String
  detail : Nat
deriving DecidableEq, Repr

structure Filter where
  /-- Longer beginnings stand first. -/
  rules : List FilterRule
  /-- Only notes that contain this are shown. -/
  wanted : Option String := none
deriving DecidableEq, Repr

namespace Filter

/-- A level's detail by its name in any letter case; `off` has none. -/
def detail? (name : String) : Option Nat :=
  let lower := Text.lower name
  if lower = "off" then some 0
  else (Level.all.find? fun level => level.key = lower).map Level.detail

def trim (text : List Char) : List Char :=
  ((text.dropWhile Text.isBlank).reverse.dropWhile Text.isBlank).reverse

def text (part : List Char) : String := String.ofList (trim part)

/-- One rule: a level for all, a source with a level, or a source with all its notes. -/
def rule? (part : List Char) : Except String FilterRule :=
  match (Text.splitAt '=' part).map text with
  | name :: more =>
    if name.toList.any Text.isBlank ∧ more.length ≤ 1 then
      .error ("ignoring invalid part in log spec '" ++ name ++ "' (contains a whitespace)")
    else
      match more with
      | [] =>
        match detail? name with
        | some detail => .ok ⟨"", detail⟩
        | none => .ok ⟨name, Level.trace.detail⟩
      | [""] => .ok ⟨name, Level.trace.detail⟩
      | [level] =>
        match detail? level with
        | some detail => .ok ⟨name, detail⟩
        | none => .error "Invalid level filter"
      | _ => .error ("invalid part in log spec '" ++ text part ++ "', ignoring it")
  | [] => .error ""

/-- Puts a rule behind those that begin at least as long. -/
def insertRule (rule : FilterRule) : List FilterRule → List FilterRule
  | [] => [rule]
  | first :: rest =>
    if first.start.utf8ByteSize < rule.start.utf8ByteSize then rule :: first :: rest
    else first :: insertRule rule rest

/-- Rules between commas, with the text that notes have to contain behind a slash. -/
def parse (spec : String) : Except String Filter :=
  match Text.splitAt '/' spec.toList with
  | rules :: more =>
    if 1 < more.length then
      .error ("invalid log spec '" ++ spec ++ "' (too many '/'s), ignoring it")
    else
      let parts := ((Text.splitAt ',' rules).filter fun part => trim part ≠ []).map rule?
      let faults := parts.filterMap fun part =>
        match part with | .error fault => some fault | .ok _ => none
      if faults ≠ [] then .error ("; ".intercalate faults)
      else
        let rules := parts.filterMap Except.toOption
        .ok
          ⟨rules.foldl (fun sorted rule => insertRule rule sorted) [], more.head?.map String.ofList⟩
  | [] => .error ""

/-- A note passes by the first rule for its source. -/
def allows (filter : Filter) (note : Note) : Bool :=
  (match filter.rules.find? fun rule => note.source.key.startsWith rule.start with
  | some rule => note.level.detail ≤ rule.detail
  | none => false) && filter.wanted.all fun text => (note.text.splitOn text).length ≠ 1 || text = ""

/-- The lines of the notes that are shown. -/
def render (filter : Filter) (notes : List Note) : String :=
  String.join ((notes.filter filter.allows).map Note.line)

/-- The environment's filter, or the one of the level if there is no readable one. -/
def choose (preferred : Option String) (level : String) : Except String Filter :=
  match preferred.bind fun spec => (parse spec).toOption with
  | some filter => .ok filter
  | none => parse level

end Filter
end RouteDoc.CommandLine
