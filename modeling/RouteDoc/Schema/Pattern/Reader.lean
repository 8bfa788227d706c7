import RouteDoc.Schema.Pattern.Basic
import RouteDoc.Schema.Pattern.Lexis

namespace RouteDoc.Schema.Pattern

inductive Opening where
  | group
  | plain
  | look (behind : Bool)
deriving Repr

def Opening.close : Opening → Pattern → Pattern
  | .group, inner => .group inner
  | .plain, inner => .plain inner
  | .look behind, inner => .look behind inner

/-- The alternatives of a group so far. -/
structure Level where
  /-- The finished alternatives, last first. -/
  branches : List Pattern := []
  /-- The parts of the current one, last first. -/
  parts : List Pattern := []
  verbose : Bool := false

def Level.finish (level : Level) : Pattern :=
  let last := join level.parts.reverse
  if level.branches.isEmpty then last else .either (level.branches.reverse ++ [last])

structure State where
  level : Level := {}
  /-- The groups around the current one, innermost first, each with how the inner one was opened. -/
  outer : List (Opening × Level) := []
  names : List String := []
  /-- How many groups with numbers were opened. -/
  groups : Nat := 0
  /-- A reference by number was met. -/
  numbered : Bool := false

namespace State

def push (part : Pattern) (state : State) : State :=
  { state with level := { state.level with parts := part :: state.level.parts } }

/-- Groups are nested to a depth that the matcher can follow. -/
def maxDepth : Nat := 63

def openGroup (grammar : Grammar) (opening : Opening) (verbose : Bool) (state : State) :
    Reads State :=
  if grammar = .extended ∧ maxDepth ≤ state.outer.length then malformed
  else .ok { state with level := { verbose }, outer := (opening, state.level) :: state.outer }

def openNumbered (grammar : Grammar) (state : State) : Reads State :=
  openGroup grammar .group state.level.verbose { state with groups := state.groups + 1 }

def closeGroup (state : State) : Reads State :=
  match state.outer with
  | [] => malformed
  | (opening, level) :: outer =>
    .ok (push (opening.close state.level.finish) { state with level, outer })

def nextBranch (state : State) : State :=
  { state with level := { state.level with
    branches := join state.level.parts.reverse :: state.level.branches, parts := [] } }

/-- What a repetition right here applies to. The extended grammar repeats nothing twice. -/
def target? (grammar : Grammar) (state : State) : Option Pattern :=
  match state.level.parts, grammar with
  | .repeated _ _ _ :: _, .extended => none
  | part :: _, _ => some part
  | [], _ => none

/-- Puts a repetition around the last part. -/
def repeatLast (grammar : Grammar) (least : Nat) (most : Option Nat) (state : State) :
    Reads State :=
  match target? grammar state with
  | none | some .flags => malformed
  | some part =>
    if grammar = .extended ∧ ¬part.canRepeat then malformed
    else .ok { state with level := { state.level with
      parts := .repeated least most part :: state.level.parts.tail } }

end State

/-- Marks of a repetition that stops early or never gives back. -/
def skipMarks (grammar : Grammar) (text : List Char) : List Char :=
  let rest := if text.head? = some '?' then text.tail else text
  if grammar = .extended ∧ rest.head? = some '+' then rest.tail else rest

def isNameChar (grammar : Grammar) (c : Char) : Bool :=
  c = '_' || c.isAlphanum || 128 ≤ c.toNat || (grammar = .plain && ".[]".contains c)

/-- A group's name; it starts with no digit and names no other group. -/
def isNewName (grammar : Grammar) (name : String) (state : State) : Bool :=
  name.toList.all (isNameChar grammar) &&
    (name.toList.head?.map fun c => c = '_' || !(c.isDigit || ".[]".contains c)).getD false &&
    !state.names.contains name

def openNamed (grammar : Grammar) (state : State) (text : List Char) : Reads (State × List Char) :=
  match bracketedName? text with
  | some (name, rest) =>
    if isNewName grammar name state then do
      return (← State.openNumbered grammar { state with names := name :: state.names }, rest)
    else malformed
  | none => malformed

/-- A group that sets flags, for itself or for what follows. -/
def openFlags (grammar : Grammar) (state : State) (text : List Char) :
    Reads (State × List Char) := do
  let (found, inner, rest) ← readFlags grammar {} text
  let verbose := found.verbose state.level.verbose
  if inner then return (← state.openGroup grammar .plain verbose, rest)
  else if found.isEmpty then malformed
  else return ({ state.push .flags with level := { (state.push .flags).level with verbose } }, rest)

/-- Looks at text ahead or behind. -/
def openLook (grammar : Grammar) (behind : Bool) (state : State) (rest : List Char) :
    Reads (State × List Char) :=
  match grammar with
  | .plain => .error .beyond
  | .extended => do return (← state.openGroup grammar (.look behind) state.level.verbose, rest)

/-- What follows an opening bracket. -/
def openAny (grammar : Grammar) (state : State) (text : List Char) : Reads (State × List Char) :=
  match skipIf state.level.verbose text with
  | '?' :: '=' :: rest | '?' :: '!' :: rest => openLook grammar false state rest
  | '?' :: '<' :: '=' :: rest | '?' :: '<' :: '!' :: rest => openLook grammar true state rest
  | '?' :: '<' :: rest | '?' :: 'P' :: '<' :: rest => openNamed grammar state ('<' :: rest)
  | '?' :: rest =>
    if grammar = .extended ∧ rest.head? = some '>' then do
      return (← state.openGroup grammar .group state.level.verbose, rest.tail)
    else openFlags grammar state rest
  | rest => do return (← State.openNumbered grammar state, rest)

/-- A group can be referred to from its opening on. -/
def refer (length : Nat) (state : State) : Escape → Reads State
  | .literal _ | .set => .ok (state.push .char)
  | .anchor => .ok (state.push .anchor)
  | .numbered n =>
    if n ≤ state.groups ∧ n < length / 2 then .ok { state.push .again with numbered := true }
    else malformed
  | .named name => if state.names.contains name then .ok (state.push .again) else malformed

/-- Reads on; `length` is the size of the whole expression in bytes. -/
def readOn (grammar : Grammar) (length : Nat) : Nat → State → List Char → Reads State
  | 0, _, _ => malformed
  | fuel + 1, state, text => do
    match skipIf state.level.verbose text with
    | [] => return state
    | '(' :: rest =>
      let (state, rest) ← openAny grammar state rest
      readOn grammar length fuel state rest
    | ')' :: rest => readOn grammar length fuel (← state.closeGroup) rest
    | '|' :: rest => readOn grammar length fuel state.nextBranch rest
    | '[' :: rest =>
      readOn grammar length fuel (state.push .char) (← set grammar state.level.verbose rest)
    | '?' :: rest =>
      readOn grammar length fuel (← state.repeatLast grammar 0 (some 1)) (skipMarks grammar rest)
    | '*' :: rest =>
      readOn grammar length fuel (← state.repeatLast grammar 0 none) (skipMarks grammar rest)
    | '+' :: rest =>
      readOn grammar length fuel (← state.repeatLast grammar 1 none) (skipMarks grammar rest)
    | '\x7b' :: rest =>
      match bounds? state.level.verbose rest, grammar, state.target? grammar with
      | some ((least, most), rest), .plain, _ | some ((least, most), rest), .extended, some _ =>
        readOn grammar length fuel (← state.repeatLast grammar least most) (skipMarks grammar rest)
      | _, .extended, _ => readOn grammar length fuel (state.push .char) rest
      | none, .plain, _ => malformed
    | '\\' :: rest =>
      let (escaped, rest) ← escape grammar rest
      readOn grammar length fuel (← refer length state escaped) rest
    | '^' :: rest | '$' :: rest => readOn grammar length fuel (state.push .anchor) rest
    | _ :: rest => readOn grammar length fuel (state.push .char) rest

/-- Reads a whole expression. Groups are referred to by name or by number, but not both. -/
def read (grammar : Grammar) (expression : String) : Reads Pattern := do
  let text := expression.toList
  let state ← readOn grammar expression.utf8ByteSize (text.length + 1) {} text
  if state.outer.isEmpty ∧ ¬(state.numbered ∧ state.names ≠ []) then return state.level.finish
  else malformed

/-- The expression has the form of a regular expression, as far as the plain grammar can tell. -/
def isRegular (expression : String) : Bool :=
  match read .plain expression with
  | .ok _ | .error .beyond => true
  | .error .malformed => false

/-- A matcher can run the expression. -/
def canRun (expression : String) : Bool :=
  match read .extended expression with
  | .ok pattern => pattern.looksSteadily
  | .error _ => false

end RouteDoc.Schema.Pattern
