import RouteDoc.CommandLine.Path
import RouteDoc.Document.Fault
import RouteDoc.Entries

namespace RouteDoc.CommandLine

/-- Access to files in a monad. -/
structure Files (m : Type → Type) where
  present : String → m Bool
  read : String → m (Except FileFault (List Nat))
  /-- Makes a folder and those around it. -/
  makeFolder : String → m (Except FileFault Unit)
  write : String → String → m (Except FileFault Unit)

/-- A file or a folder. -/
inductive Node where
  | file (bytes : List Nat)
  | folder (nodes : List (String × Node))
deriving Inhabited

namespace Node

def isFolder : Node → Bool
  | folder _ => true
  | file _ => false

def child? (name : String) : Node → Option Node
  | folder nodes => Entries.get? name nodes
  | file _ => none

/-- The node at the end of some names. -/
def find? : List String → Node → Option Node
  | [], node => some node
  | name :: rest, node => (child? name node).bind (find? rest)

/-- Puts a node in place at the end of some names, whose folders exist. -/
def put (node : Node) : List String → Node → Node
  | [], _ => node
  | name :: rest, folder nodes =>
    folder (Entries.insert name (put node rest ((Entries.get? name nodes).getD (folder []))) nodes)
  | _ :: _, file bytes => file bytes

/-- Follows steps from a folder, given by its names; the names of the goal are returned. Where a
name leads nowhere, `missing` decides. -/
def walk (missing : List String → Node → Except FileFault Node) (root : Node) (here : List String) :
    List String → Except FileFault (List String × Node)
  | [] => .ok (here, root)
  | step :: rest => do
    match root.find? here with
    | some (.folder _) =>
      if step = "." then walk missing root here rest
      else if step = ".." then walk missing root here.dropLast rest
      else
        let goal := here ++ [step]
        let root ← if (root.find? goal).isSome then pure root else missing goal root
        walk missing root goal rest
    | _ => throw .notADirectory

/-- Nothing is made on the way. -/
def refuse (_ : List String) (_ : Node) : Except FileFault Node := .error .notFound

def makeMissing (names : List String) (root : Node) : Except FileFault Node :=
  .ok (put (.folder []) names root)

/-- The names a path leads to. Absolute paths lead out of the folder. -/
def locate (root : Node) (path : String) : Except FileFault (List String) :=
  if Path.isAbsolute path ∨ path = "" then .error .notFound
  else (walk refuse root [] (Path.steps path)).map Prod.fst

def read (root : Node) (path : String) : Except FileFault (List Nat) := do
  match root.find? (← locate root path) with
  | some (.file bytes) => return bytes
  | _ => throw .isADirectory

def makeFolder (root : Node) (path : String) : Except FileFault Node := do
  if Path.isAbsolute path then throw .notFound
  let (names, root) ← walk makeMissing root [] (Path.steps path)
  match root.find? names with
  | some (.folder _) => return root
  | _ => throw .notADirectory

/-- Writes a file; the folder around it has to exist. -/
def write (root : Node) (path : String) (bytes : List Nat) : Except FileFault Node := do
  if Path.isAbsolute path then throw .notFound
  let parts := Path.parts path
  let (around, _) ← walk refuse root [] parts.dropLast
  match root.find? around, parts.getLast? with
  | some (.folder _), some name =>
    if name = "." ∨ name = ".." ∨ path.endsWith "/" then throw .isADirectory
    else if (root.find? (around ++ [name])).any isFolder then throw .isADirectory
    else return put (.file bytes) (around ++ [name]) root
  | some (.file _), _ => throw .notADirectory
  | _, _ => throw .notFound

end Node

def bytesOf (text : String) : List Nat := text.toUTF8.toList.map UInt8.toNat

/-- A change that may fail leaves the folder as it is where it does. -/
def change (action : Node → Except FileFault Node) : StateM Node (Except FileFault Unit) := do
  match action (← get) with
  | .ok root =>
    set root
    return .ok ()
  | .error fault => return .error fault

/-- Files of a folder in memory. -/
def Files.inMemory : Files (StateM Node) where
  present path := do return ((← get).locate path).toOption.isSome
  read path := do return (← get).read path
  makeFolder path := change fun root => root.makeFolder path
  write path text := change fun root => root.write path (bytesOf text)

end RouteDoc.CommandLine
