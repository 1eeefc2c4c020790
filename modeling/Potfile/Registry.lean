import Potfile.Text.Blank
import Potfile.Quoting

/-! # The messages of one file

A file's translatable strings are *occurrences*. The registry folds them into catalog
entries, one for each message, in the order in which the messages first appear.

* `Entry`: one entry of a catalog.
* `Registry.register`: folds one occurrence in. A plural that contradicts an earlier one is
  handed back as a `PluralConflict`, and the first plural stays.
* `Registry.registerAll`: folds a list of occurrences in and collects the conflicts.
-/

namespace Potfile

open Text (trim)
open Quoting (escape)

/-- A translatable string that was found in a source file. -/
structure Occurrence where
  text : String
  plural : Option String := none
deriving DecidableEq, Repr, Inhabited

structure Entry where
  /-- The message, escaped. -/
  msgid : String
  /-- The plural of the message, escaped, if there is one. -/
  plural : Option String := none
  /-- Where the message was found: no location twice, in the order of discovery. -/
  references : List String := []
  /-- The translations to fill in: one slot, or two with a plural. -/
  msgstr : List String := [""]
deriving DecidableEq, Repr, Inhabited

namespace Entry

def isPlural (e : Entry) : Bool := e.plural.isSome

/-- The entry with one more reference, unless it has that reference already. -/
def refer (e : Entry) (reference : String) : Entry :=
  if reference ∈ e.references then e else { e with references := e.references ++ [reference] }

/-- The entry with a plural, and so with two slots for translations. -/
def pluralize (e : Entry) (escaped : String) : Entry :=
  { e with plural := some escaped, msgstr := ["", ""] }

end Entry

/-- Two different plurals were given to one message. Both plurals are in their escaped form. -/
structure PluralConflict where
  message : String
  existing : String
  conflicting : String
  /-- Every location of the message so far, that of the conflicting plural included. -/
  references : List String
deriving DecidableEq, Repr, Inhabited

/-- The entries of one file, each under its message: trimmed, and not escaped. -/
structure Registry where
  entries : List (String × Entry) := []
deriving DecidableEq, Repr, Inhabited

namespace Registry

def empty : Registry := {}

/-- The entry of a message that is given as it is kept: trimmed. -/
def get? (r : Registry) (message : String) : Option Entry := r.entries.lookup message

def size (r : Registry) : Nat := r.entries.length

/-- The entries in the order in which their messages first appeared. -/
def toList (r : Registry) : List Entry := r.entries.map (·.2)

/-- Gives a message's entry a new value; a message without an entry gets one at the end. -/
def put (r : Registry) (message : String) (e : Entry) : Registry :=
  { entries := go r.entries }
where
  go : List (String × Entry) → List (String × Entry)
    | [] => [(message, e)]
    | (m, old) :: rest => if m = message then (m, e) :: rest else (m, old) :: go rest

/-- What has to be located for an occurrence: its trimmed text and its plural. A blank text
    is no message, and nothing is located for it. -/
def request? (o : Occurrence) : Option (String × Option String) :=
  let message := trim o.text
  if message.isEmpty then none else some (message, o.plural)

/-- Folds one occurrence in. `locate` names the place where a message with its plural was
    found. An empty plural counts as none. -/
def register (locate : String → Option String → String) (r : Registry) (o : Occurrence) :
    Registry × Option PluralConflict :=
  match request? o with
  | none => (r, none)
  | some (message, plural) =>
    let known := (r.get? message).getD { msgid := escape message }
    let entry := known.refer (locate message plural)
    match plural.filter (· ≠ "") with
    | none => (r.put message entry, none)
    | some text =>
      let escaped := escape text
      match entry.plural with
      | none => (r.put message (entry.pluralize escaped), none)
      | some existing =>
        if existing = escaped then (r.put message entry, none)
        else (r.put message entry,
          some { message, existing, conflicting := escaped, references := entry.references })

/-- Folds occurrences in, one after another. A conflict does not end the run, so that every
    conflict is collected. -/
def registerAll (locate : String → Option String → String) :
    Registry → List Occurrence → Registry × List PluralConflict
  | r, [] => (r, [])
  | r, o :: rest =>
    let (r', conflict) := r.register locate o
    let (final, conflicts) := registerAll locate r' rest
    (final, conflict.toList ++ conflicts)

end Registry

end Potfile
