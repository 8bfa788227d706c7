import RouteDoc.Yaml.Cursor
import RouteDoc.Yaml.Scalar

namespace RouteDoc.Yaml.Quoting

inductive Form where
  | plain
  | single
  | double
  | literal
deriving DecidableEq, Repr

/-- Printable characters of the first plane and line feeds. -/
def isPrintable (c : Char) : Bool :=
  let n := c.toNat
  n = 10 || (0x20 ≤ n && n ≤ 0x7E) || (0xA0 ≤ n && n < 0xFFFE && n ≠ 0xFEFF)

/-- A blank, a break or the end of the text. -/
def endsToken : Option Char → Bool
  | none => true
  | some c => isBlank c || isBreak c || c.toNat = 0

/-- An indicator within a text: a colon before a blank, or a hash after one. -/
def hasInnerIndicator : List Char → Bool
  | [] => false
  | [_] => false
  | c :: d :: rest =>
    (d = ':' && endsToken rest.head?) || (d = '#' && endsToken (some c)) ||
      hasInnerIndicator (d :: rest)

/-- A text that begins like something else than a plain scalar. -/
def startsOther (text : List Char) : Bool :=
  match text with
  | [] => false
  | c :: rest =>
    "#,[]\x7b\x7d&*!|>'\"%@`".contains c || ("?:-".contains c && endsToken rest.head?) ||
      text.take 3 = ['-', '-', '-'] || text.take 3 = ['.', '.', '.']

/-- A character of the first kind right before one of the second. -/
def hasPair (first second : Char → Bool) : List Char → Bool
  | c :: d :: rest => (first c && second d) || hasPair first second (d :: rest)
  | _ => false

def isSpace (c : Char) : Bool := c = ' '

/-- Only escapes can keep the text: odd characters, or a space before a break. -/
def needsEscapes (text : List Char) : Bool :=
  text.any (fun c => !isPrintable c) || hasPair isSpace isBreak text

def allowsPlain (text : List Char) : Bool :=
  !startsOther text && !hasInnerIndicator text && !needsEscapes text && !text.any isBreak &&
    !text.head?.any isSpace && !text.getLast?.any isSpace

def allowsSingle (text : List Char) : Bool := !needsEscapes text && !hasPair isBreak isSpace text

def allowsLiteral (text : List Char) : Bool := !needsEscapes text && !text.getLast?.any isSpace

/-- The text would be read as something else than itself. -/
def looksOtherwise (text : String) : Bool :=
  match Scalar.plain text with
  | .text _ => Scalar.zeroLed text.toList
  | _ => true

def formOf (text : String) : Form :=
  let chars := text.toList
  if chars.contains '\n' then if allowsLiteral chars then .literal else .double
  else if allowsPlain chars && !looksOtherwise text then .plain
  else if allowsSingle chars then .single
  else .double

def spaces (n : Nat) : List Char := List.replicate n ' '

/-- Upper-case hexadecimal digits, filled up with zeros. -/
def hexDigits (count n : Nat) : List Char :=
  let digits := (Nat.toDigits 16 n).map Char.toUpper
  List.replicate (count - digits.length) '0' ++ digits

/-- Control characters with a letter of their own. -/
def letterOf? (c : Char) : Option Char :=
  match c.toNat with
  | 0x00 => some '0'
  | 0x07 => some 'a'
  | 0x08 => some 'b'
  | 0x09 => some 't'
  | 0x0A => some 'n'
  | 0x0B => some 'v'
  | 0x0C => some 'f'
  | 0x0D => some 'r'
  | 0x1B => some 'e'
  | 0x22 => some '"'
  | 0x5C => some '\\'
  | 0x85 => some 'N'
  | 0xA0 => some '_'
  | 0x2028 => some 'L'
  | 0x2029 => some 'P'
  | _ => none

/-- Odd characters, breaks, quotes and backslashes are escaped. -/
def escapeDouble (c : Char) : List Char :=
  if isPrintable c && !isBreak c && c ≠ '"' && c ≠ '\\' then [c]
  else
    match letterOf? c with
    | some letter => ['\\', letter]
    | none =>
      let n := c.toNat
      if n ≤ 0xFF then '\\' :: 'x' :: hexDigits 2 n
      else if n ≤ 0xFFFF then '\\' :: 'u' :: hexDigits 4 n
      else '\\' :: 'U' :: hexDigits 8 n

/-- A line after a break is indented; `broken` says that a break was written. -/
def singleFrom (indent : Nat) (broken : Bool) : List Char → List Char
  | [] => if broken then spaces indent else []
  | c :: rest =>
    if isBreak c then c :: singleFrom indent true rest
    else
      (if broken then spaces indent else []) ++ (if c = '\'' then ['\'', '\''] else [c]) ++
        singleFrom indent false rest

/-- The lines of a block; a line without text stays empty. -/
def literalFrom (indent : Nat) (broken : Bool) : List Char → List Char
  | [] => if broken then [] else ['\n']
  | c :: rest =>
    if isBreak c then c :: literalFrom indent true rest
    else (if broken then spaces indent else []) ++ c :: literalFrom indent false rest

/-- A block says how its breaks at the end are meant, and its indentation where its first line does
not show it. -/
def literalHeader (text : List Char) : List Char :=
  (if text.head?.any fun c => isSpace c || isBreak c then ['2'] else []) ++
  match text.reverse with
  | last :: before =>
    if !isBreak last then ['-'] else if before.head?.all isBreak then ['+'] else []
  | [] => ['-']

/-- A scalar with the line end after it; its further lines are indented. -/
def line (indent : Nat) (text : String) : String :=
  let chars := text.toList
  String.ofList (
    match formOf text with
    | .plain => chars ++ ['\n']
    | .single => '\'' :: singleFrom indent false chars ++ ['\'', '\n']
    | .double => '"' :: chars.flatMap escapeDouble ++ ['"', '\n']
    | .literal => '|' :: literalHeader chars ++ '\n' :: literalFrom indent true chars)

end RouteDoc.Yaml.Quoting
