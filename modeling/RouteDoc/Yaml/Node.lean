import RouteDoc.Yaml.Stream

namespace RouteDoc.Yaml

inductive Node where
  | scalar (text : String) (style : Style) (tag : Option String) (mark : Mark)
  | sequence (tag : Option String) (items : List Node) (mark : Mark)
  | mapping (tag : Option String) (members : List (Node × Node)) (mark : Mark)
  /-- The node that an alias leads to. -/
  | alias (target : Node)
  /-- A text without a document. -/
  | void (mark : Mark)
  /-- The text cannot be read from here on. -/
  | broken (fault : Fault)
deriving Repr, Inhabited

namespace Node

/-- How deep collections may be nested. -/
def maxDepth : Nat := 128

/-- What composing a node leaves: the next place and the count of aliases followed. -/
structure Composed (α : Type) where
  value : α
  next : Nat
  jumps : Nat

def cut (stream : Stream) : Node :=
  .broken (stream.fault.getD (.grammar "did not find expected node content" {} none))

mutual

def compose (stream : Stream) : Nat → Nat → Nat → Nat → Composed Node
  | 0, _, place, jumps => ⟨.broken .tooManyRepetitions, place, jumps⟩
  | fuel + 1, depth, place, jumps =>
    match stream.parts[place]? with
    | none => ⟨cut stream, place, jumps⟩
    | some (part, mark) =>
      match part, depth with
      | .scalar text style tag, _ => ⟨.scalar text style tag mark, place + 1, jumps⟩
      | .void, _ => ⟨.void mark, place + 1, jumps⟩
      | .alias number, _ =>
        if stream.parts.size * 100 < jumps + 1 then
          ⟨.alias (.broken .tooManyRepetitions), place + 1, jumps + 1⟩
        else
          match stream.targets.find? (·.1 = number) with
          | some (_, target) =>
            let found := compose stream fuel depth target (jumps + 1)
            ⟨.alias found.value, place + 1, found.jumps⟩
          | none => ⟨cut stream, place + 1, jumps⟩
      | .sequenceStart _, 0 | .mappingStart _, 0 => ⟨.broken (.tooDeep mark), place + 1, jumps⟩
      | .sequenceStart tag, depth + 1 =>
        let found := composeItems stream fuel depth (place + 1) jumps
        ⟨.sequence tag found.value mark, found.next, found.jumps⟩
      | .mappingStart tag, depth + 1 =>
        let found := composeMembers stream fuel depth (place + 1) jumps
        ⟨.mapping tag found.value mark, found.next, found.jumps⟩
      | .sequenceEnd, _ | .mappingEnd, _ => ⟨cut stream, place + 1, jumps⟩

def composeItems (stream : Stream) : Nat → Nat → Nat → Nat → Composed (List Node)
  | 0, _, place, jumps => ⟨[], place, jumps⟩
  | fuel + 1, depth, place, jumps =>
    match stream.parts[place]? with
    | none => ⟨[cut stream], place, jumps⟩
    | some (.sequenceEnd, _) => ⟨[], place + 1, jumps⟩
    | some _ =>
      let item := compose stream fuel depth place jumps
      let rest := composeItems stream fuel depth item.next item.jumps
      ⟨item.value :: rest.value, rest.next, rest.jumps⟩

def composeMembers (stream : Stream) : Nat → Nat → Nat → Nat → Composed (List (Node × Node))
  | 0, _, place, jumps => ⟨[], place, jumps⟩
  | fuel + 1, depth, place, jumps =>
    match stream.parts[place]? with
    | none => ⟨[(cut stream, cut stream)], place, jumps⟩
    | some (.mappingEnd, _) => ⟨[], place + 1, jumps⟩
    | some _ =>
      let key := compose stream fuel depth place jumps
      let value := compose stream fuel depth key.next key.jumps
      let rest := composeMembers stream fuel depth value.next value.jumps
      ⟨(key.value, value.value) :: rest.value, rest.next, rest.jumps⟩

end

/-- The root of the document. -/
def ofStream (stream : Stream) : Node :=
  let size := stream.parts.size + 1
  (compose stream (300 * size * size) maxDepth 0 0).value

end Node
end RouteDoc.Yaml
