import Potfile.FileSystem
import Potfile.Path

/-! # Files without directories

A store of files in memory, each under the meaning of its path. Every write succeeds; the
directories that were asked for are only noted.

* `Memory.system`: the operations on such a store.
-/

namespace Potfile

/-- Files under the components of their paths, and the directories that were asked for. -/
structure Memory where
  files : List (List Component × ByteArray) := []
  requested : List String := []

namespace Memory

def get? (s : Memory) (path : String) : Option ByteArray := s.files.lookup (Path.components path)

def put (s : Memory) (path : String) (bytes : ByteArray) : Memory :=
  { s with files := go s.files }
where
  go : List (List Component × ByteArray) → List (List Component × ByteArray)
    | [] => [(Path.components path, bytes)]
    | (key, old) :: rest =>
      if key = Path.components path then (key, bytes) :: rest else (key, old) :: go rest

def system : FileSystem (StateM Memory) where
  read path := do
    match (← get).get? path with
    | some bytes => return bytes
    | none => throw ⟨"File not found: " ++ path, []⟩
  write path bytes := modify (·.put path bytes)
  createDirs path := modify fun s => { s with requested := s.requested ++ [path] }

end Memory

end Potfile
