import RouteDoc.CommandLine.Run

namespace RouteDoc.CommandLine

/-- The number the system gives a failed access, and its words. -/
def codeOf : IO.Error → Nat × String
  | .alreadyExists _ code words | .permissionDenied _ code words | .inappropriateType _ code words
  | .noSuchThing _ code words | .noFileOrDirectory _ code words | .invalidArgument _ code words
  | .resourceExhausted _ code words | .interrupted _ code words | .otherError code words
  | .resourceBusy code words | .resourceVanished code words | .unsupportedOperation code words
  | .hardwareFault code words | .unsatisfiedConstraints code words | .illegalOperation code words
  | .protocolError code words | .timeExpired code words => (code.toNat, words)
  | .unexpectedEof => (0, "unexpected end of file")
  | .userError words => (0, words)

/-- A folder cannot be made where a file stands. -/
def fileFaultOf (error : IO.Error) : FileFault :=
  match codeOf error with
  | (2, _) => .notFound
  | (17, _) | (20, _) => .notADirectory
  | (21, _) => .isADirectory
  | (0, words) => .other words
  | (code, words) => .other (words ++ " (os error " ++ toString code ++ ")")

def attempt {α : Type} (action : IO α) : IO (Except FileFault α) := do
  try return .ok (← action)
  catch error => return .error (fileFaultOf error)

def systemFiles : Files IO where
  present path := do return (← attempt (IO.FS.realPath path)).toOption.isSome
  read path := attempt do return (← IO.FS.readBinFile path).toList.map UInt8.toNat
  makeFolder path := attempt (IO.FS.createDirAll path)
  write path text := attempt (IO.FS.writeFile path text)

/-- The variables that the command looks at. -/
def knownVariables : List String := ["RUST_LOG", "SCHEMA2OAS_ENV", "SCHEMA2OAS_TEMPLATE"]

end RouteDoc.CommandLine

open RouteDoc.CommandLine in
def main (arguments : List String) : IO UInt32 := do
  let settings ← knownVariables.filterMapM fun name => do
    return (← IO.getEnv name).map fun value => (name, value)
  let outcome ← run systemFiles settings arguments
  IO.print outcome.output
  IO.eprint outcome.errors
  return outcome.status.toUInt32
