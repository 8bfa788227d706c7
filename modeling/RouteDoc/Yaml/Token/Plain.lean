import RouteDoc.Yaml.Token.Quoted

namespace RouteDoc.Yaml.Plain

open Quoted (Gap)

/-- Indicators that end a plain scalar within brackets. -/
def isFlowIndicator (c : Char) : Bool :=
  c = ',' ∨ c = '[' ∨ c = ']' ∨ c = '\x7b' ∨ c = '\x7d'

/-- What was read so far, last first, where it ends, and the gap behind it. -/
structure Progress where
  done : List Char := []
  stop : Mark
  gap : Gap := {}
  cursor : Cursor

/-- Takes characters up to a blank, a break or an indicator that ends the scalar. -/
def word (inFlow : Bool) (start : Mark) : Nat → Progress → Except Fault Progress
  | 0, progress => .ok progress
  | fuel + 1, progress =>
    match progress.cursor.rest with
    | [] => .ok progress
    | c :: rest =>
      if isBlank c || isBreak c then .ok progress
      else if inFlow && c = ':' && rest.head?.any (fun d => isFlowIndicator d || d = '?') then
        progress.cursor.fault "while scanning a plain scalar" start "found unexpected ':'"
      else if c = ':' && Cursor.endsWord rest.head? then .ok progress
      else if inFlow && isFlowIndicator c then .ok progress
      else
        let cursor := progress.cursor.skip
        word inFlow start fuel
          ⟨c :: (progress.gap.text.reverse ++ progress.done), cursor.mark, {}, cursor⟩

/-- Passes blanks and breaks; a tab may not stand where indentation is missing. -/
def passGap (start : Mark) (indent : Nat) : Nat → Cursor → Gap → Except Fault (Gap × Cursor)
  | 0, cursor, gap => .ok (gap, cursor)
  | fuel + 1, cursor, gap =>
    if cursor.atBreak then
      passGap start indent fuel cursor.skipBreak (gap.addBreak cursor.breakText)
    else if cursor.atBlank then
      if gap.broken && cursor.mark.column < indent && cursor.at? '\t' then
        cursor.fault "while scanning a plain scalar" start
          "found a tab character that violates indentation"
      else
        let blanks := if gap.broken then gap.blanks else gap.blanks ++ cursor.peek.toList
        passGap start indent fuel cursor.skip { gap with blanks }
    else .ok (gap, cursor)

/-- Takes words and the gaps between them. -/
def wordsFrom (inFlow : Bool) (start : Mark) (indent : Nat) :
    Nat → Progress → Except Fault Progress
  | 0, progress => .ok progress
  | fuel + 1, progress => do
    if progress.cursor.atAnyMarker || progress.cursor.at? '#' then return progress
    let progress ← word inFlow start (progress.cursor.rest.length + 1) progress
    if !(progress.cursor.atBlank || progress.cursor.atBreak) then return progress
    let (gap, cursor) ←
      passGap start indent (progress.cursor.rest.length + 1) progress.cursor progress.gap
    let progress := { progress with gap, cursor }
    if !inFlow && cursor.mark.column < indent then return progress
    wordsFrom inFlow start indent fuel progress

structure Scanned where
  text : String
  stop : Mark
  cursor : Cursor
  /-- The scalar was followed by a line break. -/
  broken : Bool

/-- The plain scalar at the cursor; `indent` is the least column of its further lines. -/
def scan (cursor : Cursor) (inFlow : Bool) (indent : Nat) : Except Fault Scanned := do
  let progress ← wordsFrom inFlow cursor.mark indent (cursor.rest.length + 1)
    { stop := cursor.mark, cursor }
  return ⟨String.ofList progress.done.reverse, progress.stop, progress.cursor, progress.gap.broken⟩

end RouteDoc.Yaml.Plain
