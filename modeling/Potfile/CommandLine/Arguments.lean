/-! # Command-line arguments

* `Invocation`: what a command line asks for.
* `UsageError`: what is wrong with a command line, and its wording.
* `Invocation.parse`: reads the arguments from the first to the last.
-/

namespace Potfile.CommandLine

/-! ## Options -/

/-- The options that take a value. -/
inductive Valued where
  | config
  | logLevel
  | output
deriving DecidableEq, Repr

def Valued.display : Valued → String
  | config => "--config <CONFIG>"
  | logLevel => "--log-level <LOG_LEVEL>"
  | output => "--output <OUTPUT>"

/-- An option: one with a value, or one that asks for information. -/
inductive Flag where
  | valued (v : Valued)
  | help
  | version
deriving DecidableEq, Repr

/-- Where an argument stands: in front of the command, or behind `extract`. -/
inductive Level where
  | top
  | extract
deriving DecidableEq, Repr

def longOption? (level : Level) (name : String) : Option Flag :=
  match level, name with
  | _, "config" => some (.valued .config)
  | _, "log-level" => some (.valued .logLevel)
  | _, "help" => some .help
  | .top, "version" => some .version
  | .extract, "output" => some (.valued .output)
  | _, _ => none

def shortOption? (level : Level) (letter : Char) : Option Flag :=
  match level, letter with
  | _, 'c' => some (.valued .config)
  | _, 'h' => some .help
  | .top, 'V' => some .version
  | .extract, 'o' => some (.valued .output)
  | _, _ => none

/-! ## Errors -/

inductive UsageError where
  | unknownCommand (text : String)
  | unknownArgument (text : String)
  | missingValue (v : Valued)
  | repeated (v : Valued)
  | unexpectedValue (option value : String)
  | missingCommand
  /-- Nothing was asked for; the answer is the help text. -/
  | nothingAsked
deriving DecidableEq, Repr

def programName : String := "gettext-extract"

def about : String := "Extract translatable strings into gettext catalogs"

/-- The first line of an error's report. -/
def UsageError.message : UsageError → String
  | unknownCommand text => "error: unrecognized subcommand '" ++ text ++ "'"
  | unknownArgument text => "error: unexpected argument '" ++ text ++ "' found"
  | missingValue v => "error: a value is required for '" ++ v.display ++ "' but none was supplied"
  | repeated v => "error: the argument '" ++ v.display ++ "' cannot be used multiple times"
  | unexpectedValue option value =>
    "error: unexpected value '" ++ value ++ "' for '" ++ option ++
      "' found; no more were expected"
  | missingCommand =>
    "error: '" ++ programName ++ "' requires a subcommand but one was not provided"
  | nothingAsked => about

/-! ## Values -/

structure Values where
  config : Option String := none
  logLevel : Option String := none
  output : Option String := none
deriving DecidableEq, Repr

def Values.get (vs : Values) : Valued → Option String
  | .config => vs.config
  | .logLevel => vs.logLevel
  | .output => vs.output

def Values.set (vs : Values) (v : Valued) (text : String) : Values :=
  match v with
  | .config => { vs with config := some text }
  | .logLevel => { vs with logLevel := some text }
  | .output => { vs with output := some text }

/-- The values of both levels; those behind the command count more. -/
def Values.merge (top inner : Values) : Values where
  config := inner.config.orElse fun _ => top.config
  logLevel := inner.logLevel.orElse fun _ => top.logLevel
  output := inner.output

/-- Takes a value; an option has one value only, and a path is not empty. -/
def Values.take (vs : Values) (v : Valued) (text : String) : Except UsageError Values :=
  if (vs.get v).isSome then .error (.repeated v)
  else if v = .config ∧ text = "" then .error (.missingValue v)
  else .ok (vs.set v text)

inductive Invocation where
  | help (level : Level)
  | version
  | extract (values : Values)
deriving DecidableEq, Repr

/-! ## Reading -/

/-- An option that was named and whose value has not been taken yet. -/
structure Pending where
  option : Valued
  value : Option String

/-- The state of reading one level: the values so far, and the option read last. Its value is
    taken only when the next option or the end shows that nothing else is wrong. -/
structure Reading where
  level : Level
  values : Values := {}
  pending : Option Pending := none

/-- Takes the value of the option read last. -/
def Reading.settle (r : Reading) : Except UsageError Reading :=
  match r.pending with
  | none => .ok r
  | some ⟨v, none⟩ => .error (.missingValue v)
  | some ⟨v, some text⟩ => do
    return { r with values := ← r.values.take v text, pending := none }

/-- The outcome of one argument: reading goes on, or it is known what is asked for. -/
inductive Step where
  | next (r : Reading)
  | done (i : Invocation)

/-- An option with a value that is attached to it, or is still to come. -/
def Reading.take (r : Reading) (v : Valued) (attached : Option String) :
    Except UsageError Step := do
  let r ← r.settle
  match attached with
  | none => return .next { r with pending := some ⟨v, none⟩ }
  | some text => return .next { r with values := ← r.values.take v text }

/-- A long option, with the value behind its equals sign. -/
def Reading.long (r : Reading) (name : String) (attached : Option String) :
    Except UsageError Step :=
  match longOption? r.level name, attached with
  | none, _ => .error (.unknownArgument ("--" ++ name))
  | some (.valued v), _ => r.take v attached
  | some .help, none => do let _ ← r.settle; return .done (.help r.level)
  | some .version, none => do let _ ← r.settle; return .done .version
  | some _, some text => .error (.unexpectedValue ("--" ++ name) text)

/-- A group of short options; the first that takes a value takes the rest of the group. -/
def Reading.short (r : Reading) : List Char → Except UsageError Step
  | [] => .ok (.next r)
  | letter :: rest =>
    match shortOption? r.level letter with
    | none => .error (.unknownArgument ("-" ++ String.singleton letter))
    | some (.valued v) =>
      r.take v (match rest with
        | [] => none
        | '=' :: text => some (String.ofList text)
        | text => some (String.ofList text))
    | some .help => do let _ ← r.settle; return .done (.help r.level)
    | some .version => do let _ ← r.settle; return .done .version

/-- An argument that is no option and no value. -/
def Reading.refuse (r : Reading) (text : String) (isTrailing : Bool) : UsageError :=
  if r.level = .top ∧ !(isTrailing && (text = "extract" ∨ text = "help")) then
    .unknownCommand text
  else .unknownArgument text

/-- What the end of the arguments makes of the values read. -/
def Reading.finish (r : Reading) (top : Values) : Except UsageError Invocation := do
  let r ← r.settle
  match r.level with
  | .extract => return .extract (top.merge r.values)
  | .top =>
    if r.values = {} then throw .nothingAsked else throw .missingCommand

def helpFor : List String → Except UsageError Invocation
  | [] => .ok (.help .top)
  | "extract" :: _ => .ok (.help .extract)
  | "help" :: _ => .ok (.help .top)
  | text :: _ => .error (.unknownCommand text)

/-- Splits the text of a long option at its equals sign. -/
def splitValue (cs : List Char) : String × Option String :=
  let name := String.ofList (cs.takeWhile (· != '='))
  match cs.dropWhile (· != '=') with
  | [] => (name, none)
  | _ :: value => (name, some (String.ofList value))

/-- Reads the arguments of a level; `top` holds the values in front of the command. -/
def Reading.run (top : Values) : Reading → List String → Except UsageError Invocation
  | r, [] => r.finish top
  | r, arg :: rest => do
    let isOpen := match r.pending with
      | some ⟨_, none⟩ => true
      | _ => false
    if r.level = .top ∧ !isOpen ∧ arg = "extract" then
      let r ← r.settle
      run r.values { level := .extract } rest
    else if r.level = .top ∧ !isOpen ∧ arg = "help" then helpFor rest
    else
      let next (step : Step) : Except UsageError Invocation :=
        match step with
        | .next r => run top r rest
        | .done i => .ok i
      match arg.toList with
      | ['-', '-'] =>
        match rest with
        | [] => r.finish top
        | text :: _ => throw (r.refuse text true)
      | '-' :: '-' :: cs =>
        let (name, value) := splitValue cs
        next (← r.long name value)
      | '-' :: c :: cs => next (← r.short (c :: cs))
      | _ =>
        match r.pending with
        | some ⟨v, none⟩ => run top { r with pending := some ⟨v, some arg⟩ } rest
        | _ => throw (r.refuse arg false)

def Invocation.parse (args : List String) : Except UsageError Invocation :=
  Reading.run {} { level := .top } args

end Potfile.CommandLine
