namespace RouteDoc

/-- The value `± mantissa * 2 ^ exponent`. -/
structure Binary64 where
  negative : Bool
  mantissa : Nat
  exponent : Int
deriving DecidableEq, Repr, Inhabited

/-- The value `digits * 10 ^ exponent`. -/
structure Decimal where
  digits : Nat
  exponent : Int
deriving DecidableEq, Repr, Inhabited

namespace Binary64

/-- The exponent of the smallest positive value. -/
def minExponent : Int := -1074

def maxExponent : Int := 971

/-- The quotient to the nearest integer, a half to the even one. -/
def roundDiv (num den : Nat) : Nat :=
  let low := num / den
  let twice := 2 * (num % den)
  if twice < den then low
  else if den < twice then low + 1
  else if low % 2 = 0 then low else low + 1

/-- Divides `num / den` by `2 ^ q` and rounds. -/
def mantissaAt (num den : Nat) (q : Int) : Nat :=
  roundDiv (num * Nat.pow 2 (-q).toNat) (den * Nat.pow 2 q.toNat)

/-- The value nearest to `num / den`, unless it lies beyond the largest one. -/
def ofQuotient? (negative : Bool) (num den : Nat) : Option Binary64 :=
  let guess : Int := (num.log2 : Int) - den.log2 - 53
  let start := max minExponent guess
  let q := if mantissaAt num den start < Nat.pow 2 53 then start
    else if mantissaAt num den (start + 1) < Nat.pow 2 53 then start + 1 else start + 2
  let m := mantissaAt num den q
  if maxExponent < q then none else some ⟨negative, m, q⟩

def digitCount (n : Nat) : Nat := (Nat.toDigits 10 n).length

/-- The value nearest to a decimal, unless it lies beyond the largest one. -/
def ofDecimal? (negative : Bool) (d : Decimal) : Option Binary64 :=
  let scale := d.exponent + digitCount d.digits
  if d.digits = 0 ∨ scale < -330 then some ⟨negative, 0, minExponent⟩
  else if 310 < scale then none
  else ofQuotient? negative (d.digits * Nat.pow 10 d.exponent.toNat)
    (Nat.pow 10 (-d.exponent).toNat)

/-- Compares `a * 10 ^ i` with `n * 2 ^ j`. -/
def compareScaled (a : Nat) (i : Int) (n : Nat) (j : Int) : Ordering :=
  compare (a * Nat.pow 10 i.toNat * Nat.pow 2 (-j).toNat)
    (n * Nat.pow 2 j.toNat * Nat.pow 10 (-i).toNat)

/-- The gap below a power of two is half the gap above it. -/
def narrowBelow (x : Binary64) : Bool :=
  x.mantissa = Nat.pow 2 52 ∧ minExponent < x.exponent

/-- The decimal lies among the reals that round to the value's size. -/
def readsBack (x : Binary64) (d : Decimal) : Bool :=
  let low := if x.narrowBelow then 4 * x.mantissa - 1 else 4 * x.mantissa - 2
  let high := 4 * x.mantissa + 2
  let ends := x.mantissa % 2 = 0
  let atLow := compareScaled d.digits d.exponent low (x.exponent - 2)
  let atHigh := compareScaled d.digits d.exponent high (x.exponent - 2)
  (atLow = .gt ∨ (ends ∧ atLow = .eq)) ∧ (atHigh = .lt ∨ (ends ∧ atHigh = .eq))

/-- The integer part of `mantissa * 2 ^ exponent / 10 ^ grid`. -/
def onGrid (x : Binary64) (grid : Int) : Nat :=
  x.mantissa * Nat.pow 2 x.exponent.toNat * Nat.pow 10 (-grid).toNat /
    (Nat.pow 2 (-x.exponent).toNat * Nat.pow 10 grid.toNat)

/-- Of two neighbours that both read back the nearer wins; a tie goes to the even one. -/
def nearestOnGrid? (x : Binary64) (grid : Int) : Option Decimal :=
  let low := x.onGrid grid
  let below : Decimal := ⟨low, grid⟩
  let above : Decimal := ⟨low + 1, grid⟩
  match decide (0 < low) && x.readsBack below, x.readsBack above with
  | true, true =>
    match compareScaled (2 * low + 1) grid (2 * x.mantissa) x.exponent with
    | .gt => some below
    | .lt => some above
    | .eq => some (if low % 2 = 0 then below else above)
  | true, false => some below
  | false, true => some above
  | false, false => none

def shortestFrom (x : Binary64) (top : Int) : Nat → Nat → Decimal
  | 0, _ => ⟨x.onGrid (top - 20), top - 20⟩
  | more + 1, count =>
    match x.nearestOnGrid? (top - count) with
    | some d => d
    | none => shortestFrom x top more (count + 1)

/-- The least power of ten above the value's size. -/
def topExponent (x : Binary64) : Int :=
  let guess : Int := ((x.mantissa.log2 : Int) + x.exponent) * 30103 / 100000
  if compareScaled 1 guess x.mantissa x.exponent = .gt then guess
  else if compareScaled 1 (guess + 1) x.mantissa x.exponent = .gt then guess + 1
  else guess + 2

def stripZeros : Nat → Decimal → Decimal
  | 0, d => d
  | more + 1, d =>
    if d.digits % 10 = 0 ∧ d.digits ≠ 0 then stripZeros more ⟨d.digits / 10, d.exponent + 1⟩ else d

/-- The fewest decimal digits that read back. -/
def shortest (x : Binary64) : Decimal :=
  if x.mantissa = 0 then ⟨0, 0⟩
  else stripZeros 20 (shortestFrom x x.topExponent 17 1)

/-- Which scientific exponents are written positionally, and the sign of the others. -/
structure Style where
  plainFrom : Int
  plainBelow : Int
  plusSign : Bool

def Style.json : Style := ⟨-5, 16, true⟩

def Style.yaml : Style := ⟨-5, 16, false⟩

/-- Every exponent is positional. -/
def Style.plain : Style := ⟨-400, 400, false⟩

def zeros (n : Nat) : String := String.ofList (List.replicate n '0')

/-- Positional text of `digits * 10 ^ exponent`, always with a fraction. -/
def positional (digits : String) (exponent : Int) : String :=
  let point : Int := digits.length + exponent
  if 0 ≤ exponent then digits ++ zeros exponent.toNat ++ ".0"
  else if 0 < point then
    String.ofList (digits.toList.take point.toNat) ++ "." ++
      String.ofList (digits.toList.drop point.toNat)
  else "0." ++ zeros (-point).toNat ++ digits

def scientific (style : Style) (digits : String) (exponent : Int) : String :=
  let whole := String.ofList (digits.toList.take 1)
  let fraction := String.ofList (digits.toList.drop 1)
  let sign := if exponent < 0 then "-" else if style.plusSign then "+" else ""
  whole ++ (if fraction = "" then "" else "." ++ fraction) ++ "e" ++ sign ++
    toString exponent.natAbs

def render (style : Style) (x : Binary64) : String :=
  let d := x.shortest
  let digits := toString d.digits
  let exponent : Int := d.exponent + digits.length - 1
  (if x.negative then "-" else "") ++
    if d.digits = 0 then "0.0"
    else if style.plainFrom ≤ exponent ∧ exponent < style.plainBelow then
      positional digits d.exponent
    else scientific style digits exponent

/-- The value is a whole number. -/
def isWhole (x : Binary64) : Bool :=
  x.mantissa % Nat.pow 2 (-x.exponent).toNat = 0

end Binary64
end RouteDoc
