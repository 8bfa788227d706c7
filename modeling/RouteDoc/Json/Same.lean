import RouteDoc.Json.Basic

namespace RouteDoc.Json

mutual

/-- Equal values, where `numbers` decides on numbers. -/
def sameBy (numbers : Number → Number → Bool) : Json → Json → Bool
  | null, null => true
  | bool a, bool b => a = b
  | number a, number b => numbers a b
  | string a, string b => a = b
  | array a, array b => sameItems numbers a b
  | object a, object b => a.length = b.length && sameMembers numbers a b
  | _, _ => false
termination_by structural value => value

def sameItems (numbers : Number → Number → Bool) : List Json → List Json → Bool
  | [], [] => true
  | a :: as, b :: bs => sameBy numbers a b && sameItems numbers as bs
  | _, _ => false

/-- Every member stands in the other object too. -/
def sameMembers (numbers : Number → Number → Bool) :
    List (String × Json) → List (String × Json) → Bool
  | [], _ => true
  | (key, value) :: rest, other =>
    (match Entries.get? key other with
    | some found => sameBy numbers value found
    | none => false) && sameMembers numbers rest other

end

/-- Equality that tells an integer from a fraction literal. -/
def same (a b : Json) : Bool := sameBy Number.same a b

/-- Equality that compares numbers by value. -/
def equal (a b : Json) : Bool := sameBy (fun a b => Number.order a b = .eq) a b

end RouteDoc.Json
