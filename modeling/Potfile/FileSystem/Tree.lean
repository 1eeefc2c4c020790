import Potfile.FileSystem
import Potfile.Path

/-! # A tree of files in memory

A tree behaves as the directories and files below a working directory do: a path is followed
name by name, each name on the way must be a directory, and every failure has its reason.

* `Tree`: files and directories, each under the names that lead to it.
* `Tree.system`, `Tree.directory`: the operations on a tree.
-/

namespace Potfile

/-- What a tree holds under a list of names. -/
inductive Node where
  | directory
  | file (bytes : ByteArray)
deriving Inhabited

/-- Files and directories under the names that lead to them from the top. -/
structure Tree where
  nodes : List (List String × Node) := []

namespace Tree

/-- What stands at the end of a list of names. The top is a directory. -/
def node? (t : Tree) (names : List String) : Option Node :=
  if names = [] then some .directory else t.nodes.lookup names

def put (t : Tree) (names : List String) (n : Node) : Tree :=
  { nodes := go t.nodes }
where
  go : List (List String × Node) → List (List String × Node)
    | [] => [(names, n)]
    | (key, old) :: rest => if key = names then (key, n) :: rest else (key, old) :: go rest

/-- The longest name that a directory can hold, in bytes. -/
def nameLimit : Nat := 255

/-- Follows pieces of a path from a directory on. The last name need not exist. -/
def follow (t : Tree) : (here : List String) → List String → Except FileError (List String)
  | here, [] => .ok here
  | here, piece :: rest =>
    match t.node? here with
    | none => .error .notFound
    | some (.file _) => .error .notDirectory
    | some .directory =>
      if piece = "" ∨ piece = "." then follow t here rest
      else if piece = ".." then follow t here.dropLast rest
      else if nameLimit < piece.utf8ByteSize then .error .nameTooLong
      else follow t (here ++ [piece]) rest

/-- The pieces of a path. The separator at the start of an absolute path is one of none. -/
def pieces (path : String) : List String := (Path.pieces path.toList).map String.ofList

def resolve (t : Tree) (path : String) : Except FileError (List String) :=
  if path = "" then .error .notFound
  else if '\x00' ∈ path.toList then .error .nulInName
  else t.follow [] (pieces path)

def lookup (t : Tree) (path : String) : Except FileError Node := do
  match t.node? (← t.resolve path) with
  | some n => return n
  | none => throw .notFound

/-- The path asks for a directory by its last piece. -/
def asksDirectory (path : String) : Bool :=
  match (pieces path).getLast? with
  | some last => last = "" || last = "." || last = ".."
  | none => false

/-! ## Operations -/

def readFile (t : Tree) (path : String) : Except FileError ByteArray := do
  match ← t.lookup path with
  | .file bytes => return bytes
  | .directory => throw .isDirectory

def writeFile (t : Tree) (path : String) (bytes : ByteArray) : Except FileError Tree := do
  let names ← t.resolve path
  match t.node? names with
  | some .directory => throw .isDirectory
  | _ =>
    if asksDirectory path then throw .isDirectory
    match t.node? names.dropLast with
    | some .directory => return t.put names (.file bytes)
    | some (.file _) => throw .notDirectory
    | none => throw .notFound

def isDirectory (t : Tree) (path : String) : Bool :=
  match t.lookup path with
  | .ok .directory => true
  | _ => false

def makeDirectory (t : Tree) (path : String) : Except FileError Tree := do
  let names ← t.resolve path
  if (t.node? names).isSome then throw .alreadyExists
  match t.node? names.dropLast with
  | some .directory => return t.put names .directory
  | some (.file _) => throw .notDirectory
  | none => throw .notFound

/-- Makes a directory after those that lead to it. What is a directory already stays so. Each
    path is shorter than the one below it, which bounds the depth. -/
def makeDirectories (t : Tree) (path : String) : Except FileError Tree :=
  go path.length t path
where
  go : (fuel : Nat) → Tree → String → Except FileError Tree
    | fuel, t, path =>
      if path = "" then .ok t
      else match t.makeDirectory path, fuel with
        | .ok t, _ => .ok t
        | .error .notFound, fuel + 1 => do
          let t ← match Path.parent? path with
            | some parent => go fuel t parent
            | none => .error .notFound
          match t.makeDirectory path with
          | .ok t => return t
          | .error e => if t.isDirectory path then return t else throw e
        | .error e, _ => if t.isDirectory path then .ok t else .error e

def namesIn (t : Tree) (path : String) : Option (List String) :=
  if t.isDirectory path then
    match t.resolve path with
    | .ok here => some (t.nodes.filterMap fun (names, _) =>
        if names ≠ [] ∧ names.dropLast = here then names.getLast? else none)
    | .error _ => none
  else none

def system : FileSystem (StateM Tree) :=
  let change (act : Tree → Except FileError Tree) : StateM Tree (Except String Unit) := do
    match act (← get) with
    | .ok t => set t; return .ok ()
    | .error e => return .error e.message
  .ofReasons (fun path => return ((← get).readFile path).mapError FileError.message)
    (fun path bytes => change (·.writeFile path bytes))
    (fun path => change (·.makeDirectories path))

def directory : Directory (StateM Tree) where
  «exists» path := return (((← get).lookup path).toOption).isSome
  isFile path := do
    match (← get).lookup path with
    | .ok (.file _) => return true
    | _ => return false
  isDirectory path := return (← get).isDirectory path
  names path := return (← get).namesIn path

/-- The files of a tree, each directory's entries in the order of their names. -/
def files (t : Tree) : List (List String × ByteArray) :=
  (t.nodes.filterMap fun (names, n) =>
    match n with
    | .file bytes => some (names, bytes)
    | .directory => none).mergeSort fun a b => (compareNames a.1 b.1).isLE
where
  compareNames : List String → List String → Ordering
    | [], [] => .eq
    | [], _ :: _ => .lt
    | _ :: _, [] => .gt
    | x :: xs, y :: ys => (compare x y).then (compareNames xs ys)

end Tree

end Potfile
