/-! # Log levels

How much a run reports about itself.
-/

namespace Potfile

/-- A log level; a later one reports more. -/
inductive LogLevel where
  | error
  | warn
  | info
  | debug
deriving DecidableEq, Repr, Inhabited

namespace LogLevel

def all : List LogLevel := [error, warn, info, debug]

def name : LogLevel → String
  | error => "error"
  | warn => "warn"
  | info => "info"
  | debug => "debug"

def ofName? (name : String) : Option LogLevel := all.find? (·.name = name)

/-- The place of a level among all, counted from one. -/
def rank : LogLevel → Nat
  | error => 1
  | warn => 2
  | info => 3
  | debug => 4

/-- The filter that lets messages of this level and those before it pass. -/
def directive (l : LogLevel) : String := "gettext_extract=" ++ l.name

def sort (ls : List LogLevel) : List LogLevel := ls.mergeSort fun a b => a.rank ≤ b.rank

end LogLevel

end Potfile
