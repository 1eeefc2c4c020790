import Potfile.Json.Value
import Potfile.Catalog
import Potfile.Error

/-! # Configuration

* `Config`: the settings of a run. Each has a default.
* `Config.ofJson`: the settings that a JSON text gives, as an object with the settings' names
  or as a list in their order. Unknown names are ignored.
-/

namespace Potfile

open Json (Cursor Reader Problem expectText expectList expectObject)

/-- Texts under names, in the order of the names' first appearance. -/
abbrev Settings := List (String × String)

/-- Gives a name a value; a name that is new comes last. -/
def Settings.put (s : Settings) (name value : String) : Settings :=
  match s with
  | [] => [(name, value)]
  | (n, v) :: rest =>
    if n = name then (n, value) :: rest else (n, v) :: Settings.put rest name value

structure Config where
  startDelim : String := "\x7b\x7b"
  endDelim : String := "\x7d\x7d"
  /-- File extensions, each with its dot, and the names of their strategies. -/
  extensions : Settings :=
    [(".htm", "html"), (".html", "html"), (".php", "html"), (".phtml", "html"), (".js", "js")]
  headers : Headers :=
    [("Content-Type", "text/plain; charset=UTF-8"), ("Content-Transfer-Encoding", "8bit")]
  /-- The locale in whose order the entries stand. -/
  sortLocale : String := "und"
  input : List String :=
    [".htm", ".html", ".php", ".phtml", ".js"].map ("src/**/*" ++ ·)
  /-- The directory below which the catalogs are written. -/
  output : String := "po"
deriving DecidableEq, Repr, Inhabited

namespace Config

/-- The name of the configuration file that is used unless another one is named. -/
def defaultFile : String := "gettext-extract.json"

def fieldNames : List String :=
  ["startDelim", "endDelim", "extensions", "headers", "sortLocale", "input", "output"]

def readSettings : Reader Settings :=
  expectObject "a map" (fun key s c => do
    let (value, c) ← expectText (← Json.colon c)
    return (s.put key value, c)) []

/-- Reads the value of the setting `name` into a configuration. -/
def readField (config : Config) (name : String) : Reader Config := fun c => do
  match name with
  | "startDelim" =>
    let (v, c) ← expectText c
    return ({ config with startDelim := v }, c)
  | "endDelim" =>
    let (v, c) ← expectText c
    return ({ config with endDelim := v }, c)
  | "extensions" =>
    let (v, c) ← readSettings c
    return ({ config with extensions := v }, c)
  | "headers" =>
    let (v, c) ← readSettings c
    return ({ config with headers := v }, c)
  | "sortLocale" =>
    let (v, c) ← expectText c
    return ({ config with sortLocale := v }, c)
  | "input" =>
    let (v, c) ← expectList expectText c
    return ({ config with input := v }, c)
  | "output" =>
    let (v, c) ← expectText c
    return ({ config with output := v }, c)
  | _ => return (config, ← Json.skipValue c)

/-- Reads one member of a configuration object. The names that were given before stand beside
    the configuration; none may be given twice. -/
def readMember (name : String) (state : Config × List String) : Reader (Config × List String) :=
  fun c => do
    let (config, given) := state
    if name ∈ given then
      let c := c.skipBlanks
      let c := if c.peek? == some '\x7d' then c.advance else c
      Json.failAt c (.duplicateField name)
    else
      let (config, c) ← readField config name (← Json.colon c)
      return ((config, if name ∈ fieldNames then name :: given else given), c)

/-- Reads settings from a list, in the order of their names; those that are missing keep
    their defaults. -/
def readListed (isFirst : Bool) : List String → Config → Reader Config
  | [], config, c => .ok (config, c)
  | name :: names, config, c => do
    let (more, c) ← Json.nextElement isFirst c
    if more then
      let (config, c) ← readField config name c
      readListed false names config c
    else return (config, c)

def read : Reader Config := fun c => do
  let (ch, c) ← Json.expectValue c
  if ch = '[' then
    let (config, c) ← readListed true fieldNames {} c.advance
    return (config, ← Json.endList c)
  else
    let ((config, _), c) ← expectObject "struct Config" readMember ({}, []) c
    return (config, c)

def ofJson (text : String) : Except Json.Error Config := Json.readAll read text

/-- The configuration that a JSON text holds, or a failure under the heading `context`. -/
def load (context text : String) : Except Failure Config :=
  match ofJson text with
  | .ok config => .ok config
  | .error e => .error ⟨context, [e.message]⟩

end Config

end Potfile
