namespace RouteDoc.Yaml

/-- A position, counted in characters from zero. -/
structure Mark where
  index : Nat := 0
  line : Nat := 0
  column : Nat := 0
deriving DecidableEq, Repr, Inhabited

def Mark.atStart (mark : Mark) : Bool := mark.line = 0 ∧ mark.column = 0

def Mark.samePlace (a b : Mark) : Bool := a.line = b.line ∧ a.column = b.column

def Mark.place (mark : Mark) : String :=
  "line " ++ toString (mark.line + 1) ++ " column " ++ toString (mark.column + 1)

/-- What was being read, and where it began. -/
structure Context where
  text : String
  mark : Mark
deriving DecidableEq, Repr

/-- Why a text stops being readable. -/
inductive Fault where
  /-- A text that follows no rule of the grammar. -/
  | grammar (problem : String) (mark : Mark) (context : Option Context)
  /-- A character that may not stand in a text, by its byte offset. -/
  | control (offset : Nat)
  | unknownAnchor (mark : Mark)
  | tooDeep (mark : Mark)
  | tooManyRepetitions
deriving DecidableEq, Repr

/-- The words for a mark; the very start of a text is left unsaid. -/
def Mark.suffix (mark : Mark) : String :=
  if mark.atStart then "" else " at " ++ mark.place

def Fault.message : Fault → String
  | grammar problem mark context =>
    problem ++ mark.suffix ++
      (match context with
      | none => ""
      | some context =>
        ", " ++ context.text ++
          if context.mark.samePlace mark then "" else context.mark.suffix)
  | control offset =>
    "control characters are not allowed" ++
      (if offset = 0 then "" else " at position " ++ toString offset)
  | unknownAnchor mark => "unknown anchor at " ++ mark.place
  | tooDeep mark => "recursion limit exceeded at " ++ mark.place
  | tooManyRepetitions => "repetition limit exceeded"

end RouteDoc.Yaml
