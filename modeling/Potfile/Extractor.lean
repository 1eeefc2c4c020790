import Potfile.Catalog
import Potfile.Config
import Potfile.Path
import Potfile.Collation
import Potfile.Markup.Occurrences
import Potfile.Script.Grammar
import Potfile.Text.Utf8

/-! # From source files to catalogs

* `Extractor`: what a configuration fixes for all files.
* `Extractor.pass`: the messages of one file, and the plural conflicts in it.
* `Extractor.transform`: what is passed on for one file, and `Extractor.run` for many: the file
  with its catalog as content, or the file unchanged behind its errors.
-/

namespace Potfile

/-- How the messages of a file are found. -/
inductive Strategy where
  | html
  | js
deriving DecidableEq, Repr, Inhabited

namespace Strategy

def name : Strategy → String
  | html => "html"
  | js => "js"

def ofName? (name : String) : Option Strategy :=
  if name = "html" then some html else if name = "js" then some js else none

end Strategy

/-- What a file holds when it arrives. -/
inductive Contents where
  | null
  | buffer (bytes : ByteArray)
  /-- Content that comes in pieces. -/
  | stream
deriving Inhabited

/-- A file on its way through the extractor. -/
structure SourceFile where
  path : String
  contents : Contents
deriving Inhabited

def SourceFile.text? (file : SourceFile) : Option String :=
  match file.contents with
  | .buffer bytes => some (Text.Utf8.decodeLossy bytes)
  | _ => none

/-- What is passed on: a file, or an error. -/
inductive Event where
  | file (file : SourceFile)
  | error (error : ExtractError)
deriving Inhabited

namespace Event

def file? : Event → Option SourceFile
  | file f => some f
  | error _ => none

def error? : Event → Option ExtractError
  | file _ => none
  | error e => some e

end Event

/-- The messages of one file, and the conflicts among their plurals. -/
structure FilePass where
  registry : Registry
  conflicts : List PluralConflict

namespace FilePass

/-- Folds the occurrences of one file in, one after another. -/
def ofOccurrences (locate : String → Option String → String) (occurrences : List Occurrence) :
    FilePass :=
  let (registry, conflicts) := Registry.empty.registerAll locate occurrences
  { registry, conflicts }

def failed (p : FilePass) : Bool := !p.conflicts.isEmpty

end FilePass

/-- What a configuration fixes for all files. -/
structure Extractor where
  /-- The strategy of each file extension, which is written with its dot. -/
  strategies : List (String × Strategy)
  delimiters : Delimiters
  /-- The order of the entries, by their escaped messages. -/
  compare : String → String → Ordering
  /-- Names the place where a message with its plural was found. -/
  locate : SourceFile → String → Option String → String := fun file _ _ => file.path
  headers : SourceFile → Option Headers

namespace Extractor

def readStrategies : Settings → Except ExtractError (List (String × Strategy))
  | [] => .ok []
  | (ext, name) :: rest =>
    match Strategy.ofName? name with
    | none => .error (.invalidStrategy name ext)
    | some s => (readStrategies rest).map ((ext, s) :: ·)

/-- The extractor of a configuration, unless one of its settings cannot be used. -/
def new? (config : Config) : Except ExtractError Extractor := do
  let strategies ← readStrategies config.extensions
  let delimiters ← (Delimiters.new? config.startDelim config.endDelim).mapError
    (.invalidDelimiter config.startDelim config.endDelim ·)
  let collation ← Collation.new? config.sortLocale
  return { strategies, delimiters, compare := collation.compare,
           headers := fun _ => some config.headers }

def strategyFor? (x : Extractor) (path : String) : Option Strategy :=
  (Path.extension? path).bind fun ext => x.strategies.lookup ("." ++ ext)

/-- The translatable strings of a source; a file without a strategy has none. -/
def occurrences (x : Extractor) (path source : String) : List Occurrence :=
  match x.strategyFor? path with
  | some .html => Markup.occurrences x.delimiters source
  | some .js => (Script.messages source).map ({ text := · })
  | none => []

/-- The messages of a file with the given source, and the conflicts. -/
def pass (x : Extractor) (file : SourceFile) (source : String) : FilePass :=
  .ofOccurrences (x.locate file) (x.occurrences file.path source)

/-- The sorted catalog of a file whose messages were collected. -/
def catalog (x : Extractor) (file : SourceFile) (registry : Registry) : Catalog :=
  ({ headers := (x.headers file).getD [], items := registry.toList } : Catalog).sort x.compare

/-- What is passed on for one file. Files without content pass unchanged. A conflict is an
    error, and then the file follows with the content it came with. -/
def transform (x : Extractor) (file : SourceFile) : List Event :=
  match file.contents with
  | .null => [.file file]
  | .stream => [.error .streamingNotSupported]
  | .buffer bytes =>
    if bytes.size = 0 then [.file file]
    else
      let result := x.pass file (Text.Utf8.decodeLossy bytes)
      if result.failed then
        result.conflicts.map (.error <| .incompatiblePlural ·) ++ [.file file]
      else
        let text := (x.catalog file result.registry).render
        [.file { file with contents := .buffer text.toUTF8 }]

/-- What is passed on for files that come one after another. -/
def run (x : Extractor) (files : List SourceFile) : List Event := files.flatMap x.transform

end Extractor

end Potfile
