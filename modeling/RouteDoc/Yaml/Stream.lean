import RouteDoc.Entries
import RouteDoc.Yaml.Event

namespace RouteDoc.Yaml

/-- An event of a document; an alias carries the number of its anchor. -/
inductive Part where
  | alias (anchor : Nat)
  | scalar (text : String) (style : Style) (tag : Option String)
  | sequenceStart (tag : Option String)
  | sequenceEnd
  | mappingStart (tag : Option String)
  | mappingEnd
  /-- Stands for a text without any document. -/
  | void
deriving DecidableEq, Repr, Inhabited

structure Stream where
  parts : Array (Part × Mark) := #[]
  /-- Why the parts end early. -/
  fault : Option Fault := none
  /-- The number of each anchor in use. -/
  anchors : Entries Nat := []
  /-- The place of the part that carries an anchor's number. -/
  targets : List (Nat × Nat) := []
  /-- More follows the first document. -/
  more : Bool := false

namespace Stream

/-- A new name takes a new number; a repeated one takes the number of names known so far. -/
def addAnchor (stream : Stream) (name : Option String) : Stream :=
  match name with
  | none => stream
  | some name =>
    let number := stream.anchors.length
    { stream with
      anchors := stream.anchors.insert name number
      targets := (number, stream.parts.size) :: stream.targets }

def addPart (stream : Stream) (part : Part) (mark : Mark) : Stream :=
  { stream with parts := stream.parts.push (part, mark) }

/-- Adds an event, or says that the document cannot go on. -/
def addEvent (stream : Stream) (event : Event) : Except Fault Stream :=
  match event.kind with
  | .alias name =>
    match stream.anchors.get? name with
    | some number => .ok (stream.addPart (.alias number) event.mark)
    | none => .error (.unknownAnchor event.mark)
  | .scalar text style tag anchor =>
    .ok ((stream.addAnchor anchor).addPart (.scalar text style tag) event.mark)
  | .sequenceStart tag anchor =>
    .ok ((stream.addAnchor anchor).addPart (.sequenceStart tag) event.mark)
  | .mappingStart tag anchor =>
    .ok ((stream.addAnchor anchor).addPart (.mappingStart tag) event.mark)
  | .sequenceEnd => .ok (stream.addPart .sequenceEnd event.mark)
  | .mappingEnd => .ok (stream.addPart .mappingEnd event.mark)
  | .documentStart | .documentEnd | .streamEnd => .ok stream

/-- Anything but the end of the stream follows, be it faulty. -/
def hasMore (grammar : Grammar) : Bool :=
  match grammar.step with
  | .ok (event, _) => event.kind ≠ .streamEnd
  | .error _ => true

def collect : Nat → Grammar → Stream → Stream
  | 0, _, stream => stream
  | fuel + 1, grammar, stream =>
    match grammar.step with
    | .error fault => { stream with fault := some fault }
    | .ok (event, grammar) =>
      match event.kind with
      | .streamEnd => stream.addPart .void event.mark
      | .documentEnd => { stream with more := hasMore grammar }
      | _ =>
        match stream.addEvent event with
        | .ok stream => collect fuel grammar stream
        | .error fault => { stream with fault := some fault }

/-- The byte offset of the first character that may not stand in a text. -/
def controlOffset? : Nat → List Char → Option Nat
  | _, [] => none
  | offset, c :: rest =>
    if isAllowed c then controlOffset? (offset + c.utf8Size) rest else some offset

def ofText (text : String) : Stream :=
  match controlOffset? 0 text.toList with
  | some offset => { fault := some (.control offset) }
  | none =>
    match Grammar.ofText text with
    | .ok grammar => collect (20 * text.length + 40) grammar {}
    | .error fault => { fault := some fault }

end Stream
end RouteDoc.Yaml
