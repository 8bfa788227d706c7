import RouteDoc.Schema.Pattern.Property
import RouteDoc.Text.Blank
import RouteDoc.Text.Hex

namespace RouteDoc.Schema.Pattern

/-- The extended grammar has look-around, references to groups and groups that are never entered
again; the plain one has none of them. -/
inductive Grammar where
  | plain
  | extended
deriving DecidableEq, Repr

inductive Refusal where
  | malformed
  /-- Only the extended grammar knows this. -/
  | beyond
deriving DecidableEq, Repr

abbrev Reads := Except Refusal

def malformed {α : Type} : Reads α := .error .malformed

/-- Skips blanks and comments; `comment` says that a comment has begun. -/
def skipNotes (comment : Bool) : List Char → List Char
  | [] => []
  | c :: rest =>
    if comment then skipNotes (c ≠ '\n') rest
    else if Text.isBlank c then skipNotes false rest
    else if c = '#' then skipNotes true rest
    else c :: rest

/-- In a verbose expression blanks and comments stand for nothing. -/
def skipIf (verbose : Bool) (text : List Char) : List Char :=
  if verbose then skipNotes false text else text

inductive Escape where
  | literal (c : Char)
  | set
  | anchor
  /-- The text of a group by its number. -/
  | numbered (n : Nat)
  /-- The text of a group by its name. -/
  | named (name : String)
deriving Repr

/-- A code that is a character. -/
def charOf? (code : Nat) : Option Char :=
  if code < 0xD800 ∨ (0xE000 ≤ code ∧ code < 0x110000) then some (Char.ofNat code) else none

/-- The character of a hexadecimal code in braces or of a fixed number of digits. -/
def hexChar (count : Nat) (text : List Char) : Reads (Escape × List Char) :=
  let (digits, rest, closed) := match text with
    | '\x7b' :: more =>
      let digits := more.takeWhile (· ≠ '\x7d')
      (digits, more.drop (digits.length + 1), digits.length < more.length && digits ≠ [])
    | _ => (text.take count, text.drop count, count ≤ text.length)
  if closed && digits.all Text.isHex then
    match charOf? (Text.natOfBase 16 digits) with
    | some c => .ok (.literal c, rest)
    | none => malformed
  else malformed

/-- The extended grammar knows the properties; the plain one takes any name for one. -/
def propertyNamed (grammar : Grammar) (name rest : List Char) : Reads (Escape × List Char) :=
  if grammar = .plain ∨ Property.isKnown name then .ok (.set, rest) else malformed

/-- A property of characters, in braces or named by one letter. -/
def property (grammar : Grammar) (text : List Char) : Reads (Escape × List Char) :=
  match text with
  | '\x7b' :: more =>
    let name := more.takeWhile (· ≠ '\x7d')
    if name.length < more.length then propertyNamed grammar name (more.drop (name.length + 1))
    else malformed
  | c :: rest => if c = '\\' then malformed else propertyNamed grammar [c] rest
  | [] => malformed

def isBoundaryChar (c : Char) : Bool := c.isAlpha || c = '-'

def boundaryNames : List String := ["start", "end", "start-half", "end-half"]

/-- A word boundary, of a special kind if letters follow in braces. -/
def boundary (text : List Char) : Reads (Escape × List Char) :=
  match text with
  | '\x7b' :: more =>
    match more with
    | [] => malformed
    | c :: _ =>
      if isBoundaryChar c then
        let name := more.takeWhile isBoundaryChar
        match more.drop name.length with
        | '\x7d' :: rest =>
          if boundaryNames.contains (String.ofList name) then .ok (.anchor, rest) else malformed
        | _ => malformed
      else .ok (.anchor, text)
  | _ => .ok (.anchor, text)

/-- ASCII characters other than letters and digits stand for themselves. -/
def isEscapable (c : Char) : Bool := c.toNat < 128 && !c.isAlphanum && c ≠ '<' && c ≠ '>'

/-- A name in angle brackets. -/
def bracketedName? (text : List Char) : Option (String × List Char) :=
  match text with
  | '<' :: more =>
    let name := more.takeWhile (· ≠ '>')
    if name ≠ [] ∧ name.length < more.length then
      some (String.ofList name, more.drop (name.length + 1))
    else none
  | _ => none

/-- Escapes that only the extended grammar knows. -/
def extendedEscape (c : Char) (rest : List Char) : Reads (Escape × List Char) :=
  if c = 'k' then
    match bracketedName? rest with
    | some (name, rest) => .ok (.named name, rest)
    | none => malformed
  else if "KGZ".contains c then .ok (.anchor, rest)
  else if "eh".contains c || c = 'H' || 128 ≤ c.toNat then .ok (.set, rest)
  else malformed

/-- What stands behind a backslash. -/
def escape (grammar : Grammar) : List Char → Reads (Escape × List Char)
  | [] => malformed
  | c :: rest =>
    if c.isDigit then
      match grammar with
      | .plain => .error .beyond
      | .extended =>
        let digits := (c :: rest).takeWhile Char.isDigit
        .ok (.numbered (Text.natOfDigits digits), (c :: rest).drop digits.length)
    else if c = 'x' then hexChar 2 rest
    else if c = 'u' then hexChar 4 rest
    else if c = 'U' then hexChar 8 rest
    else if c = 'p' ∨ c = 'P' then property grammar rest
    else if "dswDSW".contains c then .ok (.set, rest)
    else if "aftnrv".contains c then .ok (.literal c, rest)
    else if c = 'b' then boundary rest
    else if "AzB<>".contains c then .ok (.anchor, rest)
    else if isEscapable c then .ok (.literal c, rest)
    else if c = 'c' ∧ (rest.head?.map Char.isAlpha).getD false then
      .ok (.literal (Char.ofNat ((rest.headD 'a').toNat % 32)), rest.tail)
    else if grammar = .extended then extendedEscape c rest
    else malformed

/-- One end of a range, or a set that cannot be one. -/
def setItem (grammar : Grammar) : List Char → Reads (Option Char × List Char)
  | '\\' :: rest => do
    match ← escape grammar rest with
    | (.literal c, rest) => return (some c, rest)
    | (.set, rest) => return (none, rest)
    | _ => malformed
  | c :: rest => .ok (some c, rest)
  | [] => malformed

/-- A character, a set or a range whose ends are characters in order. -/
def setRange (grammar : Grammar) (verbose : Bool) (text : List Char) : Reads (List Char) := do
  let (first, rest) ← setItem grammar text
  match skipIf verbose rest with
  | [] => malformed
  | '-' :: more =>
    match skipIf verbose more with
    | [] => malformed
    | ']' :: _ | '-' :: _ => return '-' :: more
    | next => do
      let (last, rest) ← setItem grammar next
      match first, last with
      | some low, some high => if low ≤ high then return rest else malformed
      | _, _ => malformed
  | other => return other

def setNames : List String :=
  ["alnum", "alpha", "ascii", "blank", "cntrl", "digit", "graph", "lower", "print", "punct",
    "space", "upper", "word", "xdigit"]

/-- A named set such as `[:alpha:]`, after its opening bracket. -/
def namedSet? (text : List Char) : Option (List Char) :=
  match text with
  | ':' :: more =>
    let more := if more.head? = some '^' then more.tail else more
    let name := more.takeWhile (· ≠ ':')
    match more.drop name.length with
    | ':' :: ']' :: rest => if setNames.contains (String.ofList name) then some rest else none
    | _ => none
  | _ => none

/-- Behind an opening bracket: a caret, hyphens that stand for themselves, and without these a
closing bracket that does. -/
def openSet (verbose : Bool) (text : List Char) : Reads (List Char) :=
  let text := skipIf verbose text
  let text := if text.head? = some '^' then skipIf verbose text.tail else text
  let rest :=
    if text.head? = some ']' then text.tail else text.dropWhile (· = '-')
  if rest = [] then malformed else .ok rest

/-- The rest of `depth` nested sets. -/
def setTail (grammar : Grammar) (verbose : Bool) : Nat → Nat → List Char → Reads (List Char)
  | 0, _, _ => malformed
  | _, 0, text => .ok text
  | fuel + 1, depth + 1, text => do
    match skipIf verbose text with
    | [] => malformed
    | '[' :: rest =>
      match namedSet? rest with
      | some rest => setTail grammar verbose fuel (depth + 1) rest
      | none => setTail grammar verbose fuel (depth + 2) (← openSet verbose rest)
    | ']' :: rest => setTail grammar verbose fuel depth rest
    | '&' :: '&' :: rest | '-' :: '-' :: rest | '~' :: '~' :: rest =>
      setTail grammar verbose fuel (depth + 1) rest
    | text => setTail grammar verbose fuel (depth + 1) (← setRange grammar verbose text)

/-- A set of characters after its opening bracket. -/
def set (grammar : Grammar) (verbose : Bool) (text : List Char) : Reads (List Char) := do
  setTail grammar verbose (text.length + 2) 1 (← openSet verbose text)

/-- A decimal numeral with blanks around it. -/
def decimal? (text : List Char) : Option (Nat × List Char) :=
  let text := text.dropWhile Text.isBlank
  let digits := text.takeWhile Char.isDigit
  if digits = [] ∨ Nat.pow 2 32 ≤ Text.natOfDigits digits then none
  else some (Text.natOfDigits digits, (text.drop digits.length).dropWhile Text.isBlank)

/-- The bounds of a repetition after their opening brace. -/
def bounds? (verbose : Bool) (text : List Char) : Option ((Nat × Option Nat) × List Char) := do
  let (least, rest) ← decimal? (skipIf verbose text)
  match rest with
  | '\x7d' :: rest => return ((least, some least), rest)
  | ',' :: rest =>
    match skipIf verbose rest with
    | '\x7d' :: rest => return ((least, none), rest)
    | more => do
      let (most, rest) ← decimal? more
      match rest with
      | '\x7d' :: rest => if least ≤ most then return ((least, some most), rest) else none
      | _ => none
  | _ => none

def flagLetters : Grammar → String
  | .plain => "imsUuRx"
  | .extended => "imsUux"

/-- Flags up to a colon or a closing bracket. -/
structure Flags where
  letters : List Char := []
  negated : List Char := []
  /-- The hyphen was met. -/
  negating : Bool := false

/-- The verbose flag as these flags leave it. -/
def Flags.verbose (flags : Flags) (before : Bool) : Bool :=
  if flags.letters.contains 'x' then true
  else if flags.negated.contains 'x' then false else before

def Flags.isEmpty (flags : Flags) : Bool := flags.letters = [] && !flags.negating

/-- Reads flags; `true` stands for the colon. -/
def readFlags (grammar : Grammar) (flags : Flags) : List Char → Reads (Flags × Bool × List Char)
  | [] => malformed
  | c :: rest =>
    if c = ':' ∨ c = ')' then
      if flags.negating ∧ flags.negated = [] then malformed else .ok (flags, c = ':', rest)
    else if c = '-' then
      if flags.negating then malformed else readFlags grammar { flags with negating := true } rest
    else if (flagLetters grammar).contains c && !flags.letters.contains c &&
        !flags.negated.contains c && !(grammar = .extended && c = 'u' && flags.negating) then
      readFlags grammar (
        if flags.negating then { flags with negated := c :: flags.negated }
        else { flags with letters := c :: flags.letters }) rest
    else malformed

end RouteDoc.Schema.Pattern
