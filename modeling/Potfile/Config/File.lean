import Potfile.Config
import Potfile.FileSystem

/-! # Configuration files

* `Config.ofFile`: the configuration that a file holds.
* `Config.ofFileOrDefault`: that of the named file; without a name, that of the file with the
  default name, and the default settings if there is no such file.
-/

namespace Potfile.Config

variable {m : Type → Type} [Monad m]

def ofFile (fs : FileSystem m) (path : String) : Attempt m Config := do
  let failed (reasons : List String) : Failure := ⟨"Failed to read config file: " ++ path, reasons⟩
  let bytes ← (fs.read path).adapt fun f => failed f.causes
  match String.fromUTF8? bytes with
  | none => throw (failed ["stream did not contain valid UTF-8"])
  | some text => ExceptT.mk (return load ("Failed to parse config file: " ++ path) text)

/-- The configuration of the named file, or else of the default file or the defaults. -/
def ofFileOrDefault (fs : FileSystem m) (dir : Directory m) (path : Option String) :
    Attempt m Config := do
  match path with
  | some path => ofFile fs path
  | none => if ← dir.exists defaultFile then ofFile fs defaultFile else return {}

end Potfile.Config
