import RouteDoc.Yaml.Token
import RouteDoc.Yaml.Token.Block
import RouteDoc.Yaml.Token.Plain
import RouteDoc.Yaml.Token.Tag

namespace RouteDoc.Yaml

/-- A token that may turn out to be a key. -/
structure KeyCandidate where
  /-- Without a colon the text is faulty. -/
  required : Bool
  /-- The number of tokens before it. -/
  number : Nat
  mark : Mark
deriving Inhabited

structure Lexer where
  cursor : Cursor
  /-- Tokens found but not taken. -/
  queue : List Token := []
  /-- How many tokens were taken. -/
  taken : Nat := 0
  started : Bool := false
  /-- The indentation of the innermost block, and of those around it. -/
  indent : Int := -1
  outer : List Int := []
  keyAllowed : Bool := false
  /-- One possible candidate for each bracket that is open, innermost first. -/
  candidates : List (Option KeyCandidate) := []
  flowDepth : Nat := 0
deriving Inhabited

namespace Lexer

def ofText (text : String) : Lexer := { cursor := ⟨text.toList, {}⟩ }

def mark (lexer : Lexer) : Mark := lexer.cursor.mark

def inFlow (lexer : Lexer) : Bool := lexer.flowDepth ≠ 0

def column (lexer : Lexer) : Int := lexer.mark.column

def push (lexer : Lexer) (kind : TokenKind) (start stop : Mark) : Lexer :=
  { lexer with queue := lexer.queue ++ [⟨kind, start, stop⟩] }

/-- Puts a token before the one with this number. -/
def insertAt (lexer : Lexer) (number : Nat) (kind : TokenKind) (mark : Mark) : Lexer :=
  { lexer with queue := lexer.queue.insertIdx (number - lexer.taken) ⟨kind, mark, mark⟩ }

def fault {α : Type} (lexer : Lexer) (problem : String) : Except Fault α :=
  .error (.grammar problem lexer.mark none)

def keyFault {α : Type} (lexer : Lexer) (key : KeyCandidate) : Except Fault α :=
  lexer.cursor.fault "while scanning a simple key" key.mark "could not find expected ':'"

/-- A candidate on an earlier line, or more than 1024 characters back, is no key any more. -/
def isStale (lexer : Lexer) (key : KeyCandidate) : Bool :=
  key.mark.line < lexer.mark.line || key.mark.index + 1024 < lexer.mark.index

/-- Forgets stale candidates. The outermost one is looked at first. -/
def dropStale (lexer : Lexer) : Except Fault Lexer :=
  match (lexer.candidates.reverse.filterMap id).find?
      (fun key => lexer.isStale key && key.required) with
  | some key => lexer.keyFault key
  | none =>
    .ok { lexer with
      candidates := lexer.candidates.map fun key => key.filter fun key => !lexer.isStale key }

/-- Replaces the innermost candidate. -/
def setCandidate (lexer : Lexer) (key : Option KeyCandidate) : Lexer :=
  { lexer with candidates := key :: lexer.candidates.drop 1 }

def candidate? (lexer : Lexer) : Option KeyCandidate := (lexer.candidates.head?).join

def dropCandidate (lexer : Lexer) : Except Fault Lexer :=
  match lexer.candidate? with
  | some key => if key.required then lexer.keyFault key else .ok (lexer.setCandidate none)
  | none => .ok lexer

/-- Remembers the next token as a possible key, where one may stand. -/
def saveCandidate (lexer : Lexer) : Except Fault Lexer := do
  if lexer.keyAllowed then
    let key := {
      required := !lexer.inFlow && lexer.indent = lexer.column
      number := lexer.taken + lexer.queue.length
      mark := lexer.mark : KeyCandidate }
    return (← lexer.dropCandidate).setCandidate (some key)
  else return lexer

/-- Opens a block if the column lies beyond the current indentation. -/
def indentTo (lexer : Lexer) (column : Nat) (number : Option Nat) (kind : TokenKind) (mark : Mark) :
    Lexer :=
  if lexer.inFlow || (column : Int) ≤ lexer.indent then lexer
  else
    let lexer := { lexer with outer := lexer.indent :: lexer.outer, indent := column }
    match number with
    | none => lexer.push kind mark mark
    | some number => lexer.insertAt number kind mark

def closeBlocks (column : Int) : List Int → Lexer → Lexer
  | [], lexer => lexer
  | next :: outer, lexer =>
    if column < lexer.indent then
      closeBlocks column outer
        { lexer.push .blockEnd lexer.mark lexer.mark with indent := next, outer }
    else lexer

/-- Closes the blocks that are indented beyond the column. -/
def dedentTo (lexer : Lexer) (column : Int) : Lexer :=
  if lexer.inFlow then lexer else closeBlocks column lexer.outer lexer

/-- Passes blanks, comments and line breaks. -/
def skipFrom : Nat → Lexer → Lexer
  | 0, lexer => lexer
  | fuel + 1, lexer =>
    let cursor := if lexer.mark.index = 0 && lexer.cursor.at? '\ufeff' then lexer.cursor.skip
      else lexer.cursor
    let tabs := lexer.inFlow || !lexer.keyAllowed
    let cursor := (cursor.skipWhile fun c => c = ' ' || (tabs && c = '\t')).skipComment
    if cursor.atBreak then
      skipFrom fuel
        { lexer with cursor := cursor.skipBreak, keyAllowed := lexer.keyAllowed || !lexer.inFlow }
    else { lexer with cursor }

def skipToToken (lexer : Lexer) : Lexer := skipFrom (lexer.cursor.rest.length + 1) lexer

/-- Passes `n` characters that make up a token. -/
def pushSkipping (lexer : Lexer) (n : Nat) (kind : TokenKind) : Lexer :=
  let cursor := lexer.cursor.advance n
  { lexer.push kind lexer.mark cursor.mark with cursor }

/-- A token that ends every block: a marker, a directive or the end. -/
def atTopLevel (lexer : Lexer) : Except Fault Lexer := do
  return { ← (lexer.dedentTo (-1)).dropCandidate with keyAllowed := false }

def fetchStart (lexer : Lexer) : Lexer :=
  { lexer.push .streamStart lexer.mark lexer.mark with
    candidates := [none], keyAllowed := true, started := true }

/-- The end of the text counts as the start of a line. -/
def fetchEnd (lexer : Lexer) : Except Fault Lexer := do
  let mark := if lexer.mark.column = 0 then lexer.mark
    else { lexer.mark with line := lexer.mark.line + 1, column := 0 }
  let lexer ← { lexer with cursor.mark := mark }.atTopLevel
  return lexer.push .streamEnd mark mark

def fetchDirective (lexer : Lexer) : Except Fault Lexer := do
  let lexer ← lexer.atTopLevel
  let (directive, stop, cursor) ← Tag.directive lexer.cursor
  let kind := match directive with
    | .version major minor => TokenKind.version major minor
    | .tag handle start => .tagDirective handle start
  return { lexer.push kind lexer.mark stop with cursor }

def fetchMarker (lexer : Lexer) (kind : TokenKind) : Except Fault Lexer := do
  return (← lexer.atTopLevel).pushSkipping 3 kind

def fetchFlowStart (lexer : Lexer) (kind : TokenKind) : Except Fault Lexer := do
  let lexer ← lexer.saveCandidate
  return { lexer with
    candidates := none :: lexer.candidates
    flowDepth := lexer.flowDepth + 1
    keyAllowed := true }.pushSkipping 1 kind

def fetchFlowEnd (lexer : Lexer) (kind : TokenKind) : Except Fault Lexer := do
  let lexer ← lexer.dropCandidate
  let lexer := if lexer.inFlow then
      { lexer with flowDepth := lexer.flowDepth - 1, candidates := lexer.candidates.drop 1 }
    else lexer
  return { lexer with keyAllowed := false }.pushSkipping 1 kind

def fetchFlowEntry (lexer : Lexer) : Except Fault Lexer := do
  return { ← lexer.dropCandidate with keyAllowed := true }.pushSkipping 1 .flowEntry

/-- A dash; in brackets it is left to the grammar to refuse it. -/
def fetchBlockEntry (lexer : Lexer) : Except Fault Lexer := do
  if !lexer.inFlow && !lexer.keyAllowed then
    lexer.fault "block sequence entries are not allowed in this context"
  else
    let lexer := lexer.indentTo lexer.mark.column none .blockSequenceStart lexer.mark
    return { ← lexer.dropCandidate with keyAllowed := true }.pushSkipping 1 .blockEntry

def fetchKey (lexer : Lexer) : Except Fault Lexer := do
  if !lexer.inFlow && !lexer.keyAllowed then
    lexer.fault "mapping keys are not allowed in this context"
  else
    let lexer := lexer.indentTo lexer.mark.column none .blockMappingStart lexer.mark
    return { ← lexer.dropCandidate with keyAllowed := !lexer.inFlow }.pushSkipping 1 .key

/-- A colon turns the remembered token into a key. -/
def fetchValue (lexer : Lexer) : Except Fault Lexer := do
  match lexer.candidate? with
  | some key =>
    let lexer := lexer.insertAt key.number .key key.mark
    let lexer := lexer.indentTo key.mark.column (some key.number) .blockMappingStart key.mark
    return { lexer.setCandidate none with keyAllowed := false }.pushSkipping 1 .value
  | none =>
    if !lexer.inFlow && !lexer.keyAllowed then
      lexer.fault "mapping values are not allowed in this context"
    else
      let lexer := lexer.indentTo lexer.mark.column none .blockMappingStart lexer.mark
      return { lexer with keyAllowed := !lexer.inFlow }.pushSkipping 1 .value

def fetchAnchor (lexer : Lexer) (isAlias : Bool) : Except Fault Lexer := do
  let lexer ← lexer.saveCandidate
  let (name, cursor) ← Tag.anchorName lexer.cursor isAlias
  let kind := if isAlias then TokenKind.alias name else .anchor name
  return { lexer.push kind lexer.mark cursor.mark with cursor, keyAllowed := false }

def fetchTag (lexer : Lexer) : Except Fault Lexer := do
  let lexer ← lexer.saveCandidate
  let (handle, suffix, cursor) ← Tag.scan lexer.cursor lexer.inFlow
  return { lexer.push (.tag handle suffix) lexer.mark cursor.mark with cursor, keyAllowed := false }

def fetchBlockScalar (lexer : Lexer) (literal : Bool) : Except Fault Lexer := do
  let lexer ← lexer.dropCandidate
  let (text, stop, cursor) ← Block.scan lexer.cursor literal lexer.indent
  let style := if literal then Style.literal else .folded
  return { lexer.push (.scalar text style) lexer.mark stop with cursor, keyAllowed := true }

def fetchQuoted (lexer : Lexer) (single : Bool) : Except Fault Lexer := do
  let lexer ← lexer.saveCandidate
  let (text, cursor) ← Quoted.scan lexer.cursor single
  let style := if single then Style.singleQuoted else .doubleQuoted
  return { lexer.push (.scalar text style) lexer.mark cursor.mark with cursor, keyAllowed := false }

def fetchPlain (lexer : Lexer) : Except Fault Lexer := do
  let lexer ← lexer.saveCandidate
  let scanned ← Plain.scan lexer.cursor lexer.inFlow (lexer.indent + 1).toNat
  return { lexer.push (.scalar scanned.text .plain) lexer.mark scanned.stop with
    cursor := scanned.cursor, keyAllowed := scanned.broken }

/-- A plain scalar may begin here. -/
def startsPlain (lexer : Lexer) (c : Char) : Bool :=
  let wordFollows := !lexer.cursor.blankAt 1
  if c = '-' then !(lexer.cursor.peekAt 1).any isBlank
  else if c = '?' ∨ c = ':' then !lexer.inFlow && wordFollows
  else !(isBlank c || isBreak c || ",[]\x7b\x7d#&*!|>'\"%@`".contains c)

/-- Finds one more token, together with the blocks that open or close before it. -/
def fetch (lexer : Lexer) : Except Fault Lexer := do
  if !lexer.started then return lexer.fetchStart
  let lexer ← lexer.skipToToken.dropStale
  let lexer := lexer.dedentTo lexer.column
  match lexer.cursor.peek with
  | none => lexer.fetchEnd
  | some c =>
    if c = '%' && lexer.mark.column = 0 then lexer.fetchDirective
    else if lexer.cursor.atMarker '-' then lexer.fetchMarker .documentStart
    else if lexer.cursor.atMarker '.' then lexer.fetchMarker .documentEnd
    else if c = '[' then lexer.fetchFlowStart .flowSequenceStart
    else if c = '\x7b' then lexer.fetchFlowStart .flowMappingStart
    else if c = ']' then lexer.fetchFlowEnd .flowSequenceEnd
    else if c = '\x7d' then lexer.fetchFlowEnd .flowMappingEnd
    else if c = ',' then lexer.fetchFlowEntry
    else if c = '-' && lexer.cursor.blankAt 1 then lexer.fetchBlockEntry
    else if c = '?' && (lexer.inFlow || lexer.cursor.blankAt 1) then lexer.fetchKey
    else if c = ':' && (lexer.inFlow || lexer.cursor.blankAt 1) then lexer.fetchValue
    else if c = '*' then lexer.fetchAnchor true
    else if c = '&' then lexer.fetchAnchor false
    else if c = '!' then lexer.fetchTag
    else if c = '|' && !lexer.inFlow then lexer.fetchBlockScalar true
    else if c = '>' && !lexer.inFlow then lexer.fetchBlockScalar false
    else if c = '\'' then lexer.fetchQuoted true
    else if c = '"' then lexer.fetchQuoted false
    else if lexer.startsPlain c then lexer.fetchPlain
    else
      lexer.cursor.fault "while scanning for the next token" lexer.mark
        "found character that cannot start any token"

/-- The next token is known: none is missing before it. -/
def ready (lexer : Lexer) : Bool :=
  !lexer.queue.isEmpty &&
    !(lexer.candidates.any fun key => key.any fun key => key.number = lexer.taken)

def fetchUntilReady : Nat → Lexer → Except Fault Lexer
  | 0, lexer => .ok lexer
  | fuel + 1, lexer => do
    let lexer ← if lexer.queue.isEmpty then pure lexer else lexer.dropStale
    if lexer.ready then return lexer else fetchUntilReady fuel (← lexer.fetch)

/-- The next token, which stays in the queue. -/
def peek (lexer : Lexer) : Except Fault (Token × Lexer) := do
  let lexer ← fetchUntilReady (lexer.cursor.rest.length + 8) lexer
  match lexer.queue with
  | token :: _ => return (token, lexer)
  | [] => lexer.fault "did not find expected token"

def drop (lexer : Lexer) : Lexer :=
  { lexer with queue := lexer.queue.drop 1, taken := lexer.taken + 1 }

end Lexer
end RouteDoc.Yaml
