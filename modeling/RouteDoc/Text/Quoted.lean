import RouteDoc.Text.CaseTable
import RouteDoc.Text.HiddenTable

namespace RouteDoc.Text

def isHidden (c : Char) : Bool :=
  if c.toNat < 128 then c.toNat < 32 ∨ c.toNat = 127 else inRanges hiddenRanges c.toNat

def escapeQuoted (c : Char) : List Char :=
  if c = '"' then ['\\', '"']
  else if c = '\\' then ['\\', '\\']
  else if c = '\n' then ['\\', 'n']
  else if c = '\r' then ['\\', 'r']
  else if c = '\t' then ['\\', 't']
  else if c = '\x00' then ['\\', '0']
  else if isHidden c then ['\\', 'u', '\x7b'] ++ Nat.toDigits 16 c.toNat ++ ['\x7d']
  else [c]

def quoted (s : String) : String :=
  "\"" ++ String.ofList (s.toList.flatMap escapeQuoted) ++ "\""

end RouteDoc.Text
