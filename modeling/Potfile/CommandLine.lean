import Potfile.Batch
import Potfile.Config.File
import Potfile.CommandLine.Arguments
import Potfile.LogLevel
import Potfile.Text.Literal

/-! # The command line

* `CommandLine.run`: carries out what the arguments ask for and gives what is printed.
-/

namespace Potfile.CommandLine

variable {m : Type → Type} [Monad m]

/-- What a run prints, and how it ends. -/
structure Output where
  exitCode : Nat := 0
  stdout : String := ""
  stderr : String := ""
deriving DecidableEq, Repr, Inhabited

/-! ## Texts -/

def version : String := "0.1.0"

def commonOptions : String :=
  "  -c, --config <CONFIG>        Path to configuration file\n" ++
  "      --log-level <LOG_LEVEL>  Log level (error, warn, info, debug); RUST_LOG takes " ++
  "precedence [default: info]\n" ++
  "  -h, --help                   Print help\n"

def aboutExtract : String :=
  "Extract strings from the configured input files, one catalog per file"

def helpText : Level → String
  | .top =>
    about ++ "\n\nUsage: " ++ programName ++ " [OPTIONS] <COMMAND>\n\nCommands:\n" ++
    "  extract  " ++ aboutExtract ++ "\n" ++
    "  help     Print this message or the help of the given subcommand(s)\n\nOptions:\n" ++
    commonOptions ++ "  -V, --version                Print version\n"
  | .extract =>
    aboutExtract ++ "\n\nUsage: " ++ programName ++ " extract [OPTIONS]\n\nOptions:\n" ++
    "  -o, --output <OUTPUT>        Output directory (overrides config)\n" ++ commonOptions

/-- A reason under a failure: its lines are indented, and numbered where there are several. -/
def reasonLines (number : Option Nat) (reason : String) : String :=
  let first := match number with
    | none => "    "
    | some n => String.ofList (List.replicate (5 - (toString n).length) ' ') ++ toString n ++ ": "
  let further := if number.isSome then "       " else "    "
  first ++ ("\n" ++ further).intercalate (reason.splitOn "\n")

/-- The report of a failure, with the reasons behind it. -/
def report (f : Failure) : String :=
  let reasons := match f.causes with
    | [] => ""
    | [only] => "\n\nCaused by:\n" ++ reasonLines none only
    | several =>
      "\n\nCaused by:\n" ++ "\n".intercalate
        (several.zipIdx.map fun (reason, i) => reasonLines (some i) reason)
  "Error: " ++ f.message ++ reasons ++ "\n"

def reportUsage (e : UsageError) : String :=
  match e with
  | .nothingAsked => helpText .top
  | _ => e.message ++ "\n\nFor more information, try '--help'.\n"

def logLine (path : String) (e : ExtractError) : String :=
  "ERROR " ++ path ++ ": " ++ e.report ++ "\n"

/-- What is printed before the extraction. -/
def heading (config : Config) (output : String) : String :=
  "=== gettext-extract extract ===\n\nConfiguration:\n" ++
  "  Input patterns: " ++ Text.literalList config.input ++ "\n" ++
  "  Output: " ++ output ++ "\n" ++
  "  Delimiters: " ++ config.startDelim ++ " " ++ config.endDelim ++ "\n\n"

/-- What is printed after the extraction, in front of the last line. -/
def account (s : Summary) : String :=
  String.join (s.written.map fun path => "  wrote " ++ path ++ "\n") ++
  "\nExtraction Summary:\n" ++
  "  Files processed: " ++ toString s.processed ++ "\n" ++
  "  Catalogs written: " ++ toString s.written.length ++ "\n"

/-! ## Runs -/

/-- A run that has failed after it printed something. -/
def Output.fail (o : Output) (f : Failure) : Output :=
  { o with exitCode := 1, stderr := o.stderr ++ report f }

def Output.print (o : Output) (text : String) : Output := { o with stdout := o.stdout ++ text }

/-- Extracts the catalogs that a configuration asks for. -/
def extract (fs : FileSystem m) (dir : Directory m) (config : Config) (output : Option String) :
    m Output := do
  let directory := output.getD config.output
  let out : Output := { stdout := heading config directory }
  match Extractor.new? config with
  | .error e => return out.fail ⟨"Invalid configuration", [e.message]⟩
  | .ok x =>
    match ← (collectInputs dir config.input).run with
    | .error f => return out.fail f
    | .ok [] => return out.print "No input files matched.\n"
    | .ok inputs =>
      match ← (extractFiles fs x inputs directory).run with
      | .error f => return out.fail f
      | .ok summary =>
        let out := out.print (account summary)
        match summary.errors with
        | [] => return out.print "\nDone!\n"
        | errors =>
          let log := String.join (errors.map fun (path, e) => logLine path e)
          return { out with stderr := log }.fail
            ⟨toString errors.length ++ " error(s) encountered", []⟩

/-- Carries out what the arguments ask for. -/
def run (fs : FileSystem m) (dir : Directory m) (args : List String) : m Output := do
  match Invocation.parse args with
  | .error e => return { exitCode := 2, stderr := reportUsage e }
  | .ok (.help level) => return { stdout := helpText level }
  | .ok .version => return { stdout := programName ++ " " ++ version ++ "\n" }
  | .ok (.extract values) =>
    let level := values.logLevel.getD "info"
    match LogLevel.ofName? level with
    | none => return ({} : Output).fail ⟨"Unknown log level: " ++ level, []⟩
    | some _ =>
      match ← (Config.ofFileOrDefault fs dir values.config).run with
      | .error f => return ({} : Output).fail f
      | .ok config => extract fs dir config values.output

end Potfile.CommandLine
