import RouteDoc.Json.Binary64

namespace RouteDoc

/-- An integer keeps its own spelling, every other literal is a binary64 value. -/
inductive Number where
  | integer (n : Int)
  | binary (x : Binary64)
deriving DecidableEq, Repr, Inhabited

namespace Number

/-- Integers of a document fit 64 bits, signed or unsigned. -/
def fits (n : Int) : Bool :=
  -Int.pow 2 63 ≤ n ∧ n < Int.pow 2 64

def render (style : Binary64.Style) : Number → String
  | integer n => toString n
  | binary x => x.render style

/-- The value as `first * 2 ^ second`. -/
def scaled : Number → Int × Int
  | integer n => (n, 0)
  | binary x => (if x.negative then -x.mantissa else x.mantissa, x.exponent)

/-- Compares values, whatever their spelling. -/
def order (a b : Number) : Ordering :=
  let (m, p) := a.scaled
  let (n, q) := b.scaled
  compare (m * Int.pow 2 (p - q).toNat) (n * Int.pow 2 (q - p).toNat)

/-- Equality within one spelling: an integer never equals a fraction literal. -/
def same : Number → Number → Bool
  | integer a, integer b => a = b
  | binary a, binary b => order (binary a) (binary b) = .eq
  | _, _ => false

def isWhole : Number → Bool
  | integer _ => true
  | binary x => x.isWhole

end Number
end RouteDoc
