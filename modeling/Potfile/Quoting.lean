/-! # Quoted text of a catalog

Inside a quoted string of a catalog, a backslash starts an escape and a quote ends the string.

* `escape`: backslashes and quotes are written with a backslash before them. Messages are
  kept in this form.
* `escapeControls`: the control characters that have an escape letter of their own. A line
  feed has none here: it ends a quoted line and is written by the catalog's printer.
-/

namespace Potfile.Quoting

/-- One character with the backslash that a quoted string needs before it. -/
def escapeChar (c : Char) : List Char :=
  if c = '\\' then ['\\', '\\'] else if c = '"' then ['\\', '"'] else [c]

/-- Backslashes and quotes are written with a backslash before them. -/
def escape (text : String) : String :=
  String.ofList (text.toList.flatMap escapeChar)

/-- One character, in its escape letter where it is a control character that has one. -/
def controlChar (c : Char) : List Char :=
  if c = '\t' then ['\\', 't']
  else if c = '\r' then ['\\', 'r']
  else if c = '\x07' then ['\\', 'a']
  else if c = '\x08' then ['\\', 'b']
  else if c = '\x0b' then ['\\', 'v']
  else if c = '\x0c' then ['\\', 'f']
  else [c]

/-- Control characters other than the line feed are written by their escape letters. -/
def escapeControls (cs : List Char) : List Char :=
  cs.flatMap controlChar

end Potfile.Quoting
