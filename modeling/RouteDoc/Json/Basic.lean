import RouteDoc.Entries
import RouteDoc.Json.Number

namespace RouteDoc

/-- The members of an object stand in document order. -/
inductive Json where
  | null
  | bool (b : Bool)
  | number (n : Number)
  | string (s : String)
  | array (items : List Json)
  | object (members : List (String × Json))
deriving Repr, Inhabited

namespace Json

/-- The member of an object; other values have none. -/
def get? (key : String) : Json → Option Json
  | object members => Entries.get? key members
  | _ => none

def asString? : Json → Option String
  | string s => some s
  | _ => none

def asBool? : Json → Option Bool
  | bool b => some b
  | _ => none

def asArray? : Json → Option (List Json)
  | array items => some items
  | _ => none

def asObject? : Json → Option (Entries Json)
  | object members => some members
  | _ => none

def isNull : Json → Bool
  | null => true
  | _ => false

def isString : Json → Bool
  | string _ => true
  | _ => false

def isNumber : Json → Bool
  | number _ => true
  | _ => false

def ofNat (n : Nat) : Json := number (.integer n)

/-- The members of an object member, or nothing. -/
def entriesAt (key : String) (value : Json) : Entries Json :=
  ((value.get? key).bind asObject?).getD []

end Json
end RouteDoc
