import RouteDoc.Yaml.Cursor

namespace RouteDoc.Yaml.Block

def context : String := "while scanning a block scalar"

/-- Which of the last line breaks are kept. -/
inductive Chomping where
  | strip
  | clip
  | keep
deriving DecidableEq

def chomping? : Option Char → Option Chomping
  | some '+' => some .keep
  | some '-' => some .strip
  | _ => none

/-- The digit of an indentation indicator, if one stands here. -/
def increment (cursor : Cursor) (start : Mark) : Except Fault (Nat × Cursor) :=
  match cursor.peek with
  | some c =>
    if c = '0' then cursor.fault context start "found an indentation indicator equal to 0"
    else if c.isDigit then .ok (c.toNat - 48, cursor.skip)
    else .ok (0, cursor)
  | none => .ok (0, cursor)

/-- The indicators after the bar or the arrow, in either order. -/
def header (cursor : Cursor) (start : Mark) : Except Fault (Chomping × Nat × Cursor) := do
  match chomping? cursor.peek with
  | some chomping =>
    let (digit, cursor) ← increment cursor.skip start
    return (chomping, digit, cursor)
  | none =>
    let (digit, cursor) ← increment cursor start
    match chomping? cursor.peek with
    | some chomping =>
      if digit = 0 then return (.clip, digit, cursor) else return (chomping, digit, cursor.skip)
    | none => return (.clip, digit, cursor)

/-- Passes indentation and empty lines; yields the breaks, the greatest column and the end mark. -/
def emptyLines (start : Mark) (indent : Nat) :
    Nat → Nat → List Char → Mark → Cursor → Except Fault (Nat × List Char × Mark × Cursor)
  | 0, widest, breaks, stop, cursor => .ok (widest, breaks, stop, cursor)
  | fuel + 1, widest, breaks, stop, cursor => do
    let room := if indent = 0 then cursor.rest.length else indent - cursor.mark.column
    let spaces := (cursor.rest.take room).takeWhile (· = ' ')
    let cursor := cursor.advance spaces.length
    let widest := max widest cursor.mark.column
    if (indent = 0 || cursor.mark.column < indent) && cursor.at? '\t' then
      cursor.fault context start "found a tab character where an indentation space is expected"
    else if cursor.atBreak then
      let next := cursor.skipBreak
      emptyLines start indent fuel widest (breaks ++ cursor.breakText) next.mark next
    else return (widest, breaks, stop, cursor)

structure Progress where
  text : List Char := []
  /-- The break behind the last line, and the breaks of the empty lines after it. -/
  lastBreak : List Char := []
  breaks : List Char := []
  /-- The last line began with a blank. -/
  blankBefore : Bool := false
  stop : Mark
  cursor : Cursor

/-- A folded line break is a space, unless empty lines follow or a line begins with a blank. -/
def joint (literal : Bool) (progress : Progress) (blankNow : Bool) : List Char :=
  if !literal && progress.lastBreak.head? = some '\n' && !progress.blankBefore && !blankNow then
    (if progress.breaks = [] then [' '] else []) ++ progress.breaks
  else progress.lastBreak ++ progress.breaks

def lines (literal : Bool) (start : Mark) (indent : Nat) : Nat → Progress → Except Fault Progress
  | 0, progress => .ok progress
  | fuel + 1, progress => do
    let cursor := progress.cursor
    if cursor.mark.column = indent && !cursor.atEnd then
      let blankNow := cursor.atBlank
      let (line, cursor) := cursor.span (!isBreak ·)
      let next := cursor.skipBreak
      let (_, breaks, stop, after) ←
        emptyLines start indent (next.rest.length + 1) 0 [] next.mark next
      lines literal start indent fuel {
        text := progress.text ++ joint literal progress blankNow ++ line
        lastBreak := cursor.breakText
        breaks
        blankBefore := blankNow
        stop
        cursor := after }
    else return progress

/-- The breaks that chomping leaves at the end. -/
def Chomping.tail (chomping : Chomping) (progress : Progress) : List Char :=
  match chomping with
  | .strip => []
  | .clip => progress.lastBreak
  | .keep => progress.lastBreak ++ progress.breaks

/-- The scalar whose bar or arrow stands at the cursor; `parent` is the indentation around it. -/
def scan (cursor : Cursor) (literal : Bool) (parent : Int) :
    Except Fault (String × Mark × Cursor) := do
  let start := cursor.mark
  let (chomping, digit, cursor) ← header cursor.skip start
  let cursor := cursor.skipBlanks.skipComment
  if !cursor.atLineEnd then
    cursor.fault context start "did not find expected comment or line break"
  else
    let cursor := cursor.skipBreak
    let given := if digit = 0 then 0 else if 0 ≤ parent then parent.toNat + digit else digit
    let (widest, breaks, stop, cursor) ←
      emptyLines start given (cursor.rest.length + 1) 0 [] cursor.mark cursor
    let indent := if given = 0 then max (max widest (parent + 1).toNat) 1 else given
    let progress ← lines literal start indent (cursor.rest.length + 1) { breaks, stop, cursor }
    return (String.ofList (progress.text ++ chomping.tail progress), progress.stop, progress.cursor)

end RouteDoc.Yaml.Block
