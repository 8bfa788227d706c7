namespace RouteDoc.Text.Utf8

/-- The bytes allowed after a lead byte in its second place, and how many more follow. -/
def follow? (lead : Nat) : Option (Nat × Nat × Nat) :=
  if 0xC2 ≤ lead ∧ lead ≤ 0xDF then some (0x80, 0xBF, 0)
  else if lead = 0xE0 then some (0xA0, 0xBF, 1)
  else if lead = 0xED then some (0x80, 0x9F, 1)
  else if 0xE1 ≤ lead ∧ lead ≤ 0xEF then some (0x80, 0xBF, 1)
  else if lead = 0xF0 then some (0x90, 0xBF, 2)
  else if 0xF1 ≤ lead ∧ lead ≤ 0xF3 then some (0x80, 0xBF, 2)
  else if lead = 0xF4 then some (0x80, 0x8F, 2)
  else none

/-- Reads continuation bytes; fails at the first byte that is none. -/
def continuation (value : Nat) : Nat → List Nat → Option Nat × List Nat
  | 0, bytes => (some value, bytes)
  | _ + 1, [] => (none, [])
  | more + 1, byte :: rest =>
    if 0x80 ≤ byte ∧ byte ≤ 0xBF then continuation (value * 64 + (byte - 0x80)) more rest
    else (none, byte :: rest)

/-- The bits of a lead byte that belong to the code point. -/
def leadBits (lead : Nat) : Nat :=
  if lead < 0xE0 then lead - 0xC0 else if lead < 0xF0 then lead - 0xE0 else lead - 0xF0

/-- The character at the front, or nothing for an ill-formed sequence. -/
def step (lead : Nat) (rest : List Nat) : Option Char × List Nat :=
  if lead < 0x80 then (some (Char.ofNat lead), rest)
  else
    match follow? lead, rest with
    | some (low, high, more), second :: tail =>
      if low ≤ second ∧ second ≤ high then
        let (value, rest) := continuation (leadBits lead * 64 + (second - 0x80)) more tail
        (value.map Char.ofNat, rest)
      else (none, rest)
    | _, _ => (none, rest)

def chars : Nat → List Nat → List (Option Char)
  | 0, _ => []
  | _ + 1, [] => []
  | fuel + 1, lead :: rest =>
    let (c, rest) := step lead rest
    c :: chars fuel rest

/-- Every ill-formed sequence becomes one replacement character. -/
def lossy (bytes : List Nat) : List Char :=
  (chars bytes.length bytes).map (·.getD '\uFFFD')

/-- The text, if the bytes are well-formed throughout. -/
def decode? (bytes : List Nat) : Option String :=
  ((chars bytes.length bytes).mapM id).map String.ofList

end RouteDoc.Text.Utf8
