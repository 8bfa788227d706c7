namespace RouteDoc.Schema

/-- A regular expression as far as its form matters. -/
inductive Pattern where
  | empty
  /-- A group that only sets flags. -/
  | flags
  /-- One character of some set. -/
  | char
  | anchor
  /-- What a group has matched before. -/
  | again
  | look (behind : Bool) (inner : Pattern)
  /-- A group with a number, or one that is never entered again. -/
  | group (inner : Pattern)
  | plain (inner : Pattern)
  | repeated (least : Nat) (most : Option Nat) (inner : Pattern)
  | sequence (parts : List Pattern)
  | either (branches : List Pattern)
deriving Inhabited

namespace Pattern

/-- Parts that match something or look at something. -/
def isSolid : Pattern → Bool
  | empty | flags => false
  | _ => true

/-- A single part stands for itself. -/
def join (parts : List Pattern) : Pattern :=
  match parts.filter isSolid with
  | [] => empty
  | [single] => single
  | solid => sequence solid

/-- A repetition needs a part that can match different text each time. -/
def canRepeat : Pattern → Bool
  | empty | flags | anchor | look _ _ => false
  | plain inner => canRepeat inner
  | _ => true

/-- The one width of widths that all agree. -/
def common : List (Option Nat) → Option Nat
  | [] => none
  | [single] => single
  | first :: rest => if common rest = first then first else none

mutual

/-- The number of characters of every match, if there is only one. -/
def width : Pattern → Option Nat
  | empty | flags | anchor | look _ _ => some 0
  | char => some 1
  | again => none
  | group inner | plain inner => width inner
  | repeated least most inner => if most = some least then (width inner).map (least * ·) else none
  | sequence parts => widthOfAll parts
  | either branches => common (widths branches)
termination_by structural pattern => pattern

def widthOfAll : List Pattern → Option Nat
  | [] => some 0
  | part :: rest =>
    match width part, widthOfAll rest with
    | some m, some n => some (m + n)
    | _, _ => none

def widths : List Pattern → List (Option Nat)
  | [] => []
  | branch :: rest => width branch :: widths rest

end

/-- Text behind can be looked at if its width is known, alternative by alternative. -/
def isSteady : Pattern → Bool
  | plain inner => isSteady inner
  | either branches => (widths branches).all Option.isSome
  | pattern => (width pattern).isSome

mutual

/-- Every look behind is at text of a known width. -/
def looksSteadily : Pattern → Bool
  | look behind inner => (!behind || isSteady inner) && looksSteadily inner
  | group inner | plain inner | repeated _ _ inner => looksSteadily inner
  | sequence parts => allLookSteadily parts
  | either branches => allLookSteadily branches
  | _ => true
termination_by structural pattern => pattern

def allLookSteadily : List Pattern → Bool
  | [] => true
  | part :: rest => looksSteadily part && allLookSteadily rest

end

end Pattern
end RouteDoc.Schema
