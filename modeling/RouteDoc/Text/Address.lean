import RouteDoc.Text.Hex

namespace RouteDoc.Text

/-- Splits at every occurrence of a character. -/
def splitAt (separator : Char) : List Char → List (List Char)
  | [] => [[]]
  | c :: rest =>
    match splitAt separator rest with
    | [] => [[]]
    | part :: parts => if c = separator then [] :: part :: parts else (c :: part) :: parts

/-- A dotted address at the end of a bracketed one. -/
def isDotted (text : List Char) : Bool :=
  let all := splitAt '.' text
  all.length = 4 && all.all fun part =>
    part ≠ [] && part.all Char.isDigit && part.length ≤ 3 && natOfBase 10 part < 256 &&
      (part.length = 1 || part.head? ≠ some '0')

/-- The number of groups in a list of groups of up to four hexadecimal digits. -/
def groupCount? : List (List Char) → Option Nat
  | [] => some 0
  | [last] =>
    if last ≠ [] ∧ last.length ≤ 4 ∧ last.all isHex then some 1
    else if isDotted last then some 2 else none
  | group :: rest =>
    if group ≠ [] ∧ group.length ≤ 4 ∧ group.all isHex then (groupCount? rest).map (· + 1) else none

/-- Groups between colons; the empty text has none. -/
def groups (text : List Char) : List (List Char) := if text = [] then [] else splitAt ':' text

/-- Splits at the first double colon. -/
def splitGap? : List Char → Option (List Char × List Char)
  | ':' :: ':' :: rest => some ([], rest)
  | c :: rest => (splitGap? rest).map fun (before, after) => (c :: before, after)
  | [] => none

/-- Eight groups, or fewer around one double colon. -/
def isBracketedAddress (text : List Char) : Bool :=
  match splitGap? text with
  | none => groupCount? (splitAt ':' text) = some 8
  | some (before, after) =>
    let front := (groupCount? (groups before)).filter fun _ => !before.contains '.'
    match front, groupCount? (groups after) with
    | some m, some n => m + n ≤ 7
    | _, _ => false

end RouteDoc.Text
