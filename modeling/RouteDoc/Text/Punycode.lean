namespace RouteDoc.Text.Punycode

/-- The digits are the letters and then the decimal digits. -/
def digit? (c : Char) : Option Nat :=
  if 'a' ≤ c ∧ c ≤ 'z' then some (c.toNat - 97)
  else if 'A' ≤ c ∧ c ≤ 'Z' then some (c.toNat - 65)
  else if '0' ≤ c ∧ c ≤ '9' then some (c.toNat - 48 + 26)
  else none

def adaptFrom : Nat → Nat → Nat → Nat
  | 0, k, delta => k + 36 * delta / (delta + 38)
  | fuel + 1, k, delta =>
    if 455 < delta then adaptFrom fuel (k + 36) (delta / 35) else k + 36 * delta / (delta + 38)

/-- The bias for the next number. -/
def adapt (delta count : Nat) (first : Bool) : Nat :=
  let delta := if first then delta / 700 else delta / 2
  adaptFrom 64 0 (delta + delta / count)

/-- One number of variable length: its value and the digits after it. -/
def number? (bias : Nat) : Nat → Nat → Nat → List Char → Option (Nat × List Char)
  | _, _, _, [] => none
  | value, weight, k, c :: rest => do
    let digit ← digit? c
    let value := value + digit * weight
    let threshold := if k ≤ bias then 1 else min 26 (k - bias)
    if 2 ^ 32 ≤ value then none
    else if digit < threshold then some (value, rest)
    else number? bias value (weight * (36 - threshold)) (k + 36) rest

/-- Puts in the other characters: `code` and `place` say which came last and where. -/
def insertFrom : Nat → List Nat → Nat → Nat → Nat → List Char → Option (List Nat)
  | 0, _, _, _, _, _ => none
  | _ + 1, done, _, _, _, [] => some done
  | fuel + 1, done, code, place, bias, digits => do
    let (delta, rest) ← number? bias 0 1 36 digits
    let count := done.length + 1
    let code := code + (place + delta) / count
    let next := (place + delta) % count
    if 0x10FFFF < code ∨ (0xD800 ≤ code ∧ code < 0xE000) then none
    else
      insertFrom fuel (done.insertIdx next code) code (next + 1)
        (adapt delta count (place = 0)) rest

/-- Splits at the last hyphen. -/
def split (label : List Char) : List Char × List Char :=
  let tail := (label.reverse.takeWhile (· ≠ '-')).reverse
  if tail.length = label.length then ([], label)
  else (label.take (label.length - tail.length - 1), tail)

/-- The code points of a label without its `xn--`. -/
def decode? (label : List Char) : Option (List Nat) :=
  let (basic, digits) := split label
  insertFrom (digits.length + 1) (basic.map Char.toNat) 128 0 72 digits

end RouteDoc.Text.Punycode
