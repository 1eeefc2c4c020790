import Potfile.Extractor
import Potfile.FileSystem
import Potfile.Glob

/-! # Many files at once

* `collectInputs`: the files that fit some pattern, in the order of paths and none twice.
* `catalogPath`: where the catalog of an input is written.
* `extractFiles`: reads all inputs, and then writes the catalog of each input without errors.
-/

namespace Potfile

variable {m : Type → Type} [Monad m]

/-! ## Inputs -/

/-- Puts a path into an ascending list, unless the same path is there already. -/
def insertPath (path : String) : List String → List String
  | [] => [path]
  | p :: ps =>
    match Path.compare path p with
    | .lt => path :: p :: ps
    | .eq => p :: ps
    | .gt => p :: insertPath path ps

/-- The files that fit some pattern, in the order of paths and none twice. -/
def collectInputs (dir : Directory m) (patterns : List String) : Attempt m (List String) := do
  let mut inputs := []
  for pattern in patterns do
    match ← Glob.expand (m := m) dir pattern with
    | .error e => throw ⟨"Invalid glob pattern: " ++ pattern, [e.message]⟩
    | .ok paths =>
      for path in paths do
        if ← dir.isFile path then
          inputs := insertPath path inputs
  return inputs

/-! ## Outputs -/

def catalogSuffix : String := ".pot"

/-- Where the catalog of an input is written: below the output directory, under the names in
    the input's path. Other components are left out, so that no input leads elsewhere. -/
def catalogPath (output input : String) : String :=
  Path.join output ("/".intercalate (Path.names input) ++ catalogSuffix)

/-- What one input yields: its catalog's text, or the errors in it. -/
structure Outcome where
  input : String
  catalog : Option String
  errors : List ExtractError
deriving DecidableEq

def Outcome.of (x : Extractor) (input : String) (bytes : ByteArray) : Outcome :=
  let events := x.transform ⟨input, .buffer bytes⟩
  let errors := events.filterMap Event.error?
  { input, errors
    catalog := if errors = [] then
      ((events.filterMap Event.file?).getLast?).bind SourceFile.text? else none }

structure Summary where
  processed : Nat
  /-- Where catalogs were written, in the order of the inputs. -/
  written : List String
  errors : List (String × ExtractError)
deriving DecidableEq, Repr, Inhabited

/-- Reads every input; the first that cannot be read ends the run. -/
def readOutcomes (fs : FileSystem m) (x : Extractor) (inputs : List String) :
    Attempt m (List Outcome) :=
  inputs.mapM fun input => return Outcome.of x input (← fs.read input)

/-- Writes the catalog of an outcome, if it has one, and gives the place. -/
def writeOutcome (fs : FileSystem m) (output : String) (o : Outcome) :
    Attempt m (Option String) := do
  match o.catalog with
  | none => return none
  | some text =>
    let target := catalogPath output o.input
    match Path.parent? target with
    | some parent => fs.createDirs parent
    | none => pure ()
    fs.write target text.toUTF8
    return some target

/-- Reads all inputs, and then writes the catalog of each input without errors. -/
def extractFiles (fs : FileSystem m) (x : Extractor) (inputs : List String) (output : String) :
    Attempt m Summary := do
  let outcomes ← readOutcomes fs x inputs
  let written ← outcomes.mapM (writeOutcome fs output)
  return {
    processed := outcomes.length
    written := written.filterMap id
    errors := outcomes.flatMap fun o => o.errors.map ((o.input, ·)) }

end Potfile
