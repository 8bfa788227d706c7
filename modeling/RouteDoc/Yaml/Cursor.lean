import RouteDoc.Yaml.Mark
import RouteDoc.Text.Hex

namespace RouteDoc.Yaml

def isBreak (c : Char) : Bool :=
  c = '\n' ∨ c = '\r' ∨ c = '\u0085' ∨ c = '\u2028' ∨ c = '\u2029'

def isBlank (c : Char) : Bool := c = ' ' ∨ c = '\t'

/-- ASCII letters, digits, the underscore and the hyphen. -/
def isWordChar (c : Char) : Bool := c.isAlphanum ∨ c = '_' ∨ c = '-'

/-- Printable characters, breaks and tabs may stand in a text. -/
def isAllowed (c : Char) : Bool :=
  let n := c.toNat
  n = 9 ∨ n = 10 ∨ n = 13 ∨ (0x20 ≤ n ∧ n ≤ 0x7E) ∨ n = 0x85 ∨ (0xA0 ≤ n ∧ n ≤ 0xFFFD) ∨
    0x10000 ≤ n

structure Cursor where
  rest : List Char
  mark : Mark := {}
deriving Inhabited

namespace Cursor

def peek (cursor : Cursor) : Option Char := cursor.rest.head?

def peekAt (cursor : Cursor) (n : Nat) : Option Char := cursor.rest[n]?

/-- The text goes on with this character. -/
def at? (cursor : Cursor) (c : Char) : Bool := cursor.peek = some c

/-- The end of the text counts as a blank or break. -/
def endsWord (c : Option Char) : Bool :=
  match c with
  | none => true
  | some c => isBlank c || isBreak c

/-- A blank, a break or the end stands `n` characters on. -/
def blankAt (cursor : Cursor) (n : Nat) : Bool := endsWord (cursor.peekAt n)

def atEnd (cursor : Cursor) : Bool := cursor.rest.isEmpty

def atBlank (cursor : Cursor) : Bool := cursor.peek.any isBlank

def atBreak (cursor : Cursor) : Bool := cursor.peek.any isBreak

/-- The line ends here. -/
def atLineEnd (cursor : Cursor) : Bool := cursor.atEnd || cursor.atBreak

/-- Passes characters of one line. -/
def advance (cursor : Cursor) (n : Nat) : Cursor where
  rest := cursor.rest.drop n
  mark := { cursor.mark with
    index := cursor.mark.index + min n cursor.rest.length
    column := cursor.mark.column + min n cursor.rest.length }

def skip (cursor : Cursor) : Cursor := cursor.advance 1

/-- Passes one line break; a carriage return and a line feed are one. -/
def skipBreak (cursor : Cursor) : Cursor :=
  match cursor.rest with
  | '\r' :: '\n' :: rest => ⟨rest, ⟨cursor.mark.index + 2, cursor.mark.line + 1, 0⟩⟩
  | c :: rest => if isBreak c then
    ⟨rest, ⟨cursor.mark.index + 1, cursor.mark.line + 1, 0⟩⟩ else cursor
  | [] => cursor

/-- What a line break reads as: a line feed, or a Unicode separator as it stands. -/
def breakText (cursor : Cursor) : List Char :=
  match cursor.peek with
  | some c => if c = '\u2028' ∨ c = '\u2029' then [c] else if isBreak c then ['\n'] else []
  | none => []

/-- The characters of the line while they satisfy `p`. -/
def span (cursor : Cursor) (p : Char → Bool) : List Char × Cursor :=
  let taken := cursor.rest.takeWhile p
  (taken, cursor.advance taken.length)

def skipWhile (cursor : Cursor) (p : Char → Bool) : Cursor := (cursor.span p).2

def skipBlanks (cursor : Cursor) : Cursor := cursor.skipWhile isBlank

/-- Passes a comment, up to the end of its line. -/
def skipComment (cursor : Cursor) : Cursor :=
  if cursor.at? '#' then cursor.skipWhile (!isBreak ·) else cursor

/-- A document marker starts here, at the start of a line. -/
def atMarker (cursor : Cursor) (c : Char) : Bool :=
  cursor.mark.column = 0 && cursor.rest.take 3 == [c, c, c] && cursor.blankAt 3

def atAnyMarker (cursor : Cursor) : Bool := cursor.atMarker '-' || cursor.atMarker '.'

/-- A fault at this place, in the course of what began at `start`. -/
def fault {α : Type} (cursor : Cursor) (context : String) (start : Mark) (problem : String) :
    Except Fault α :=
  .error (.grammar problem cursor.mark (some ⟨context, start⟩))

end Cursor
end RouteDoc.Yaml
