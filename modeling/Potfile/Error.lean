import Potfile.Registry

/-! # What can go wrong

* `ExtractError`: a configuration that cannot be used, or a file that yields no catalog.
* `Failure`: a failed operation of a run, with the reasons behind it from the outside in.
-/

namespace Potfile

/-- Why an extractor cannot be built or a file yields no catalog. -/
inductive ExtractError where
  /-- A file extension is mapped to no known strategy. -/
  | invalidStrategy (strategy extension : String)
  /-- No matcher can be built for the delimiters. -/
  | invalidDelimiter (opening closing reason : String)
  /-- The sort locale cannot be read. -/
  | invalidLocale (locale reason : String)
  /-- The file's content comes in pieces and not as one buffer. -/
  | streamingNotSupported
  /-- One message was declared with two different plurals. -/
  | incompatiblePlural (conflict : PluralConflict)
deriving DecidableEq, Repr, Inhabited

def ExtractError.message : ExtractError → String
  | .invalidStrategy strategy extension =>
    "Invalid strategy " ++ strategy ++ " for extension " ++ extension
  | .invalidDelimiter opening closing reason =>
    "Invalid delimiters " ++ opening ++ " / " ++ closing ++ ": " ++ reason
  | .invalidLocale locale reason => "Invalid sort locale " ++ locale ++ ": " ++ reason
  | .streamingNotSupported => "Streaming not supported"
  | .incompatiblePlural c =>
    "Incompatible plural definitions for " ++ c.message ++ ": " ++ c.existing ++ " / " ++
      c.conflicting ++ " (in: " ++ ", ".intercalate c.references ++ ")"

/-- The name under which errors are reported to a host. -/
def programName : String := "gettext-extract"

/-- The line that reports an error to a host: its wording behind the program's name. -/
def ExtractError.report (e : ExtractError) : String :=
  "[" ++ programName ++ "] " ++ e.message

/-- A failed operation: what was attempted, and the reasons behind it from the outside in. -/
structure Failure where
  message : String
  causes : List String := []
deriving DecidableEq, Repr, Inhabited

/-- The failure seen from an enclosing operation. -/
def Failure.within (f : Failure) (context : String) : Failure :=
  { message := context, causes := f.message :: f.causes }

end Potfile
