import RouteDoc.Yaml.Lexer

namespace RouteDoc.Yaml

inductive EventKind where
  | documentStart
  | documentEnd
  | streamEnd
  | alias (name : String)
  | scalar (text : String) (style : Style) (tag : Option String) (anchor : Option String)
  | sequenceStart (tag : Option String) (anchor : Option String)
  | sequenceEnd
  | mappingStart (tag : Option String) (anchor : Option String)
  | mappingEnd
deriving DecidableEq, Repr, Inhabited

structure Event where
  kind : EventKind
  mark : Mark
deriving DecidableEq, Repr, Inhabited

/-- What the grammar expects next. -/
inductive Expect where
  | document (implicit : Bool)
  | content
  | documentEnd
  | blockNode
  | blockEntry (first : Bool)
  | indentlessEntry
  | blockKey (first : Bool)
  | blockValue
  | flowEntry (first : Bool)
  | flowPairKey
  | flowPairValue
  | flowPairEnd
  | flowKey (first : Bool)
  | flowValue (empty : Bool)
  | nothing
deriving DecidableEq, Repr, Inhabited

structure Grammar where
  lexer : Lexer
  expect : Expect := .document true
  stack : List Expect := []
  /-- Where the open collections began. -/
  opened : List Mark := []
  /-- Tag handles of the document, with what they stand for. -/
  handles : List (String × String) := []
deriving Inhabited

namespace Grammar

abbrev Step := Except Fault (Event × Grammar)

def peek (grammar : Grammar) : Except Fault (Token × Grammar) := do
  let (token, lexer) ← grammar.lexer.peek
  return (token, { grammar with lexer })

/-- Takes the token that was looked at. -/
def drop (grammar : Grammar) : Grammar := { grammar with lexer := grammar.lexer.drop }

/-- Goes on with what the stack holds. -/
def pop (grammar : Grammar) : Grammar :=
  match grammar.stack with
  | next :: stack => { grammar with expect := next, stack }
  | [] => { grammar with expect := .nothing }

def push (grammar : Grammar) (after : Expect) : Grammar :=
  { grammar with stack := after :: grammar.stack }

def openAt (grammar : Grammar) (mark : Mark) : Grammar :=
  { grammar with opened := mark :: grammar.opened }

def close (grammar : Grammar) : Grammar :=
  { grammar.pop with opened := grammar.opened.drop 1 }

def emptyScalar (grammar : Grammar) (mark : Mark) : Event × Grammar :=
  (⟨.scalar "" .plain none none, mark⟩, grammar)

/-- A fault in the collection opened last. -/
def faultInside {α : Type} (grammar : Grammar) (context problem : String) (mark : Mark) :
    Except Fault α :=
  .error (.grammar problem mark (some ⟨context, grammar.opened.headD {}⟩))

/-- The anchor and tag in front of a node. -/
structure Properties where
  anchor : Option String := none
  tag : Option (String × String × Mark) := none
  start : Mark

def addProperty (properties : Properties) (token : Token) : Option Properties :=
  match token.kind, properties.anchor, properties.tag with
  | .anchor name, none, _ => some { properties with anchor := some name }
  | .tag handle suffix, _, none =>
    some { properties with tag := some (handle, suffix, token.start) }
  | _, _, _ => none

/-- Takes up to `n` properties, each kind at most once. -/
def properties : Nat → Properties → Grammar → Except Fault (Properties × Token × Grammar)
  | 0, found, grammar => do
    let (token, grammar) ← grammar.peek
    return (found, token, grammar)
  | n + 1, found, grammar => do
    let (token, grammar) ← grammar.peek
    match addProperty found token with
    | some found => properties n found grammar.drop
    | none => return (found, token, grammar)

/-- The full tag: the handle replaced by what it stands for. -/
def resolveTag (grammar : Grammar) (found : Properties) : Except Fault (Option String) :=
  match found.tag with
  | none => .ok none
  | some (handle, suffix, mark) =>
    if handle = "" then .ok (some suffix)
    else
      match grammar.handles.find? fun known => known.1 = handle with
      | some (_, start) => .ok (some (start ++ suffix))
      | none =>
        .error (.grammar "found undefined tag handle" mark
          (some ⟨"while parsing a node", found.start⟩))

/-- The tag `!` forbids resolution, and other than on a plain scalar says nothing. -/
def scalarTag (tag : Option String) : Option String :=
  if tag = some "!" then none else tag

/-- A node: an alias, a scalar or the start of a collection. -/
def node (grammar : Grammar) (block indentless : Bool) : Step := do
  let (token, grammar) ← grammar.peek
  match token.kind with
  | .alias name => return (⟨.alias name, token.start⟩, grammar.drop.pop)
  | _ =>
    let (found, token, grammar) ← properties 2 { start := token.start } grammar
    let tag ← grammar.resolveTag found
    let start := found.start
    let begin (kind : EventKind) (expect : Expect) : Step :=
      .ok (⟨kind, start⟩, { grammar with expect })
    match token.kind, block with
    | .blockEntry, _ =>
      if indentless then begin (.sequenceStart tag found.anchor) .indentlessEntry
      else missing grammar found tag token
    | .scalar text style, _ =>
      return (⟨.scalar text style (scalarTag tag) found.anchor, start⟩, grammar.drop.pop)
    | .flowSequenceStart, _ => begin (.sequenceStart tag found.anchor) (.flowEntry true)
    | .flowMappingStart, _ => begin (.mappingStart tag found.anchor) (.flowKey true)
    | .blockSequenceStart, true => begin (.sequenceStart tag found.anchor) (.blockEntry true)
    | .blockMappingStart, true => begin (.mappingStart tag found.anchor) (.blockKey true)
    | _, _ => missing grammar found tag token
where
  /-- Properties alone make an empty scalar. -/
  missing (grammar : Grammar) (found : Properties) (tag : Option String) (token : Token) : Step :=
    if found.anchor.isSome || found.tag.isSome then
      .ok (⟨.scalar "" .plain tag found.anchor, found.start⟩, grammar.pop)
    else
      .error (.grammar "did not find expected node content" token.start
        (some ⟨if block then "while parsing a block node"
          else "while parsing a flow node", found.start⟩))

/-- Directives in front of a document. -/
def directives : Nat → Bool → List (String × String) → Grammar →
    Except Fault (List (String × String) × Grammar)
  | 0, _, handles, grammar => .ok (handles, grammar)
  | fuel + 1, versioned, handles, grammar => do
    let (token, grammar) ← grammar.peek
    match token.kind with
    | .version major minor =>
      if versioned then .error (.grammar "found duplicate %YAML directive" token.start none)
      else if major = 1 ∧ (minor = 1 ∨ minor = 2) then
        directives fuel true handles grammar.drop
      else .error (.grammar "found incompatible YAML document" token.start none)
    | .tagDirective handle start =>
      if handles.any fun known => known.1 = handle then
        .error (.grammar "found duplicate %TAG directive" token.start none)
      else directives fuel versioned (handles ++ [(handle, start)]) grammar.drop
    | _ => return (handles, grammar)

/-- Handles that need no directive. -/
def knownHandles : List (String × String) := [("!", "!"), ("!!", "tag:yaml.org,2002:")]

def skipDocumentEnds : Nat → Grammar → Except Fault Grammar
  | 0, grammar => .ok grammar
  | fuel + 1, grammar => do
    let (token, grammar) ← grammar.peek
    if token.kind = .documentEnd then skipDocumentEnds fuel grammar.drop else return grammar

/-- The start of a document, or the end of the stream. -/
def document (grammar : Grammar) (implicit : Bool) : Step := do
  let fuel := grammar.lexer.cursor.rest.length + grammar.lexer.queue.length + 1
  let grammar ← if implicit then pure grammar else skipDocumentEnds fuel grammar
  let (token, grammar) ← grammar.peek
  match token.kind with
  | .streamEnd => return (⟨.streamEnd, token.start⟩, { grammar.drop with expect := .nothing })
  | .version .. | .tagDirective .. | .documentStart => explicit fuel grammar token.start
  | _ =>
    if implicit then
      return (⟨.documentStart, token.start⟩,
        { grammar.push .documentEnd with expect := .blockNode, handles := knownHandles })
    else explicit fuel grammar token.start
where
  explicit (fuel : Nat) (grammar : Grammar) (start : Mark) : Step := do
    let (handles, grammar) ← directives fuel false [] grammar
    let (token, grammar) ← grammar.peek
    if token.kind = .documentStart then
      return (⟨.documentStart, start⟩,
        { (grammar.push .documentEnd).drop with
          expect := .content, handles := handles ++ knownHandles })
    else .error (.grammar "did not find expected <document start>" token.start none)

/-- The root of a document whose start was marked. -/
def content (grammar : Grammar) : Step := do
  let (token, grammar) ← grammar.peek
  match token.kind with
  | .version .. | .tagDirective .. | .documentStart | .documentEnd | .streamEnd =>
    return emptyScalar grammar.pop token.start
  | _ => node grammar true false

def documentEnd (grammar : Grammar) : Step := do
  let (token, grammar) ← grammar.peek
  let grammar := if token.kind = .documentEnd then grammar.drop else grammar
  return (⟨.documentEnd, token.start⟩, { grammar with expect := .document false, handles := [] })

/-- Takes the bracket or block start before the first entry. -/
def begin (grammar : Grammar) (first : Bool) : Except Fault (Token × Grammar) := do
  let (token, grammar) ← grammar.peek
  if first then ((grammar.drop).openAt token.start).peek else return (token, grammar)

/-- After the current token a node follows, or an empty scalar if one of `ends` comes at once. -/
def nodeOrEmpty (grammar : Grammar) (mark : Mark) (after : Expect) (block indentless : Bool)
    (ends : List TokenKind) : Step := do
  let (token, grammar) ← grammar.peek
  if ends.contains token.kind then return emptyScalar { grammar with expect := after } mark
  else node (grammar.push after) block indentless

def blockEntry (grammar : Grammar) (first : Bool) : Step := do
  let (token, grammar) ← grammar.begin first
  match token.kind with
  | .blockEntry =>
    nodeOrEmpty grammar.drop token.stop (.blockEntry false) true false [.blockEntry, .blockEnd]
  | .blockEnd => return (⟨.sequenceEnd, token.start⟩, grammar.drop.close)
  | _ =>
    grammar.faultInside "while parsing a block collection" "did not find expected '-' indicator"
      token.start

def indentlessEntry (grammar : Grammar) : Step := do
  let (token, grammar) ← grammar.peek
  match token.kind with
  | .blockEntry =>
    nodeOrEmpty grammar.drop token.stop .indentlessEntry true false
      [.blockEntry, .key, .value, .blockEnd]
  | _ => return (⟨.sequenceEnd, token.start⟩, grammar.pop)

def blockKey (grammar : Grammar) (first : Bool) : Step := do
  let (token, grammar) ← grammar.begin first
  match token.kind with
  | .key => nodeOrEmpty grammar.drop token.stop .blockValue true true [.key, .value, .blockEnd]
  | .blockEnd => return (⟨.mappingEnd, token.start⟩, grammar.drop.close)
  | _ => grammar.faultInside "while parsing a block mapping" "did not find expected key" token.start

def blockValue (grammar : Grammar) : Step := do
  let (token, grammar) ← grammar.peek
  match token.kind with
  | .value =>
    nodeOrEmpty grammar.drop token.stop (.blockKey false) true true [.key, .value, .blockEnd]
  | _ => return emptyScalar { grammar with expect := .blockKey false } token.start

/-- Takes the comma between entries, or faults. -/
def separator (grammar : Grammar) (token : Token) (first : Bool) (context problem : String) :
    Except Fault (Token × Grammar) :=
  if first then .ok (token, grammar)
  else if token.kind = .flowEntry then grammar.drop.peek
  else grammar.faultInside context problem token.start

def flowEntry (grammar : Grammar) (first : Bool) : Step := do
  let (token, grammar) ← grammar.begin first
  if token.kind = .flowSequenceEnd then
    return (⟨.sequenceEnd, token.start⟩, grammar.drop.close)
  let (token, grammar) ← grammar.separator token first "while parsing a flow sequence"
    "did not find expected ',' or ']'"
  match token.kind with
  | .key =>
    return (⟨.mappingStart none none, token.start⟩, { grammar.drop with expect := .flowPairKey })
  | .flowSequenceEnd => return (⟨.sequenceEnd, token.start⟩, grammar.drop.close)
  | _ => node (grammar.push (.flowEntry false)) false false

/-- The key of a single pair in a sequence; where it is missing the next token is passed over. -/
def flowPairKey (grammar : Grammar) : Step := do
  let (token, grammar) ← grammar.peek
  if [.value, .flowEntry, .flowSequenceEnd].contains token.kind then
    return emptyScalar { grammar.drop with expect := .flowPairValue } token.stop
  else node (grammar.push .flowPairValue) false false

def flowPairValue (grammar : Grammar) : Step := do
  let (token, grammar) ← grammar.peek
  if token.kind = .value then
    let (token, grammar) ← grammar.drop.peek
    if [.flowEntry, .flowSequenceEnd].contains token.kind then
      return emptyScalar { grammar with expect := .flowPairEnd } token.start
    else node (grammar.push .flowPairEnd) false false
  else return emptyScalar { grammar with expect := .flowPairEnd } token.start

def flowPairEnd (grammar : Grammar) : Step := do
  let (token, grammar) ← grammar.peek
  return (⟨.mappingEnd, token.start⟩, { grammar with expect := .flowEntry false })

def flowKey (grammar : Grammar) (first : Bool) : Step := do
  let (token, grammar) ← grammar.begin first
  if token.kind = .flowMappingEnd then
    return (⟨.mappingEnd, token.start⟩, grammar.drop.close)
  let (token, grammar) ← grammar.separator token first "while parsing a flow mapping"
    "did not find expected ',' or '\x7d'"
  match token.kind with
  | .key =>
    let (token, grammar) ← grammar.drop.peek
    if [.value, .flowEntry, .flowMappingEnd].contains token.kind then
      return emptyScalar { grammar with expect := .flowValue false } token.start
    else node (grammar.push (.flowValue false)) false false
  | .flowMappingEnd => return (⟨.mappingEnd, token.start⟩, grammar.drop.close)
  | _ => node (grammar.push (.flowValue true)) false false

def flowValue (grammar : Grammar) (empty : Bool) : Step := do
  let (token, grammar) ← grammar.peek
  let after := { grammar with expect := .flowKey false }
  if empty then return emptyScalar after token.start
  else if token.kind = .value then
    let (token, grammar) ← grammar.drop.peek
    if [.flowEntry, .flowMappingEnd].contains token.kind then
      return emptyScalar { grammar with expect := .flowKey false } token.start
    else node (grammar.push (.flowKey false)) false false
  else return emptyScalar after token.start

/-- The next event. -/
def step (grammar : Grammar) : Step :=
  match grammar.expect with
  | .document implicit => grammar.document implicit
  | .content => grammar.content
  | .documentEnd => grammar.documentEnd
  | .blockNode => grammar.node true false
  | .blockEntry first => grammar.blockEntry first
  | .indentlessEntry => grammar.indentlessEntry
  | .blockKey first => grammar.blockKey first
  | .blockValue => grammar.blockValue
  | .flowEntry first => grammar.flowEntry first
  | .flowPairKey => grammar.flowPairKey
  | .flowPairValue => grammar.flowPairValue
  | .flowPairEnd => grammar.flowPairEnd
  | .flowKey first => grammar.flowKey first
  | .flowValue empty => grammar.flowValue empty
  | .nothing => .ok (⟨.streamEnd, grammar.lexer.mark⟩, grammar)

/-- The grammar at the start of a text; the first token opens the stream. -/
def ofText (text : String) : Except Fault Grammar := do
  let (_, grammar) ← (show Grammar from { lexer := .ofText text }).peek
  return grammar.drop

end Grammar
end RouteDoc.Yaml
