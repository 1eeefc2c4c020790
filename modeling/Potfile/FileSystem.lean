import Potfile.Error

/-! # Files

Everything that a run does to files goes through a record of operations, so that a run can be
carried out on a disk as well as on a tree of files in memory.

* `FileSystem`: reading, writing and making directories; each may fail.
* `Directory`: looking around in directories.
-/

namespace Potfile

inductive FileError where
  | notFound
  | alreadyExists
  | notDirectory
  | isDirectory
  | nameTooLong
  | nulInName
deriving DecidableEq, Repr, Inhabited

def FileError.message : FileError → String
  | notFound => "No such file or directory (os error 2)"
  | alreadyExists => "File exists (os error 17)"
  | notDirectory => "Not a directory (os error 20)"
  | isDirectory => "Is a directory (os error 21)"
  | nameTooLong => "File name too long (os error 36)"
  | nulInName => "file name contained an unexpected NUL byte"

/-- A step that may fail. -/
abbrev Attempt (m : Type → Type) (α : Type) : Type := ExceptT Failure m α

/-- What a run does to files. -/
structure FileSystem (m : Type → Type) where
  read : String → Attempt m ByteArray
  write : String → ByteArray → Attempt m Unit
  /-- Makes a directory, with all that lead to it. -/
  createDirs : String → Attempt m Unit

/-- What can be seen of directories. -/
structure Directory (m : Type → Type) where
  «exists» : String → m Bool
  isFile : String → m Bool
  isDirectory : String → m Bool
  /-- The names in a directory; `none` if they cannot be listed. -/
  names : String → m (Option (List String))

/-- The file system whose operations report `reason`s; a failure says what was attempted. -/
def FileSystem.ofReasons [Monad m] (read : String → m (Except String ByteArray))
    (write : String → ByteArray → m (Except String Unit))
    (createDirs : String → m (Except String Unit)) : FileSystem m :=
  let wrap {α : Type} (task path : String) (act : m (Except String α)) : Attempt m α :=
    ExceptT.mk do
      match ← act with
      | .ok a => return .ok a
      | .error reason => return .error ⟨"Failed to " ++ task ++ ": " ++ path, [reason]⟩
  { read := fun path => wrap "read file" path (read path)
    write := fun path bytes => wrap "write file" path (write path bytes)
    createDirs := fun path => wrap "create directory" path (createDirs path) }

end Potfile
