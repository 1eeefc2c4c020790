import Potfile.Registry

/-! # Catalogs

A catalog is a header block and a list of entries, written as text that translators fill in.

* `Catalog.render`: the text of a catalog.
* `Catalog.sort`: the entries in the order of a comparison of their messages.
-/

namespace Potfile

open Quoting (escape escapeControls)

/-- Header names and their values, in the order in which they are written. -/
abbrev Headers := List (String × String)

structure Catalog where
  headers : Headers := []
  items : List Entry := []
deriving DecidableEq, Repr, Inhabited

namespace Catalog

/-! ## Lines of text -/

def quotedLine (cs : List Char) : List Char := '"' :: cs ++ ['"', '\n']

/-- The quoted lines of a text: each line feed is written as an escape and ends its line.
    What stands behind the last one gets a line only if it is not empty. -/
def quotedLines : (line : List Char) → List Char → List Char
  | [], [] => []
  | line, [] => quotedLine line
  | line, c :: rest =>
    if c = '\n' then quotedLine (line ++ ['\\', 'n']) ++ quotedLines [] rest
    else quotedLines (line ++ [c]) rest

/-- A keyword and its string. A text without line feeds stands beside the keyword; any other
    starts on the next line. -/
def field (keyword : List Char) (escaped : String) : List Char :=
  let cs := escapeControls escaped.toList
  if '\n' ∈ cs then keyword ++ ' ' :: quotedLine [] ++ quotedLines [] cs
  else keyword ++ ' ' :: quotedLine cs

/-! ## Headers and entries -/

def headerLine (h : String × String) : List Char :=
  quotedLine (escapeControls (escape (h.1 ++ ": " ++ h.2)).toList ++ ['\\', 'n'])

/-- The comment line of one reference. -/
def referenceLine (reference : String) : List Char :=
  "#: ".toList ++ reference.toList ++ ['\n']

/-- The lines of the slots that translators fill in: numbered if there are several. -/
def slotLines (msgstr : List String) : List Char :=
  match msgstr with
  | [] => field "msgstr".toList ""
  | [only] => field "msgstr".toList (escape only)
  | several =>
    (several.zipIdx.map fun (text, i) =>
      field ("msgstr[".toList ++ Nat.toDigits 10 i ++ [']']) (escape text)).flatten

/-- The lines of one entry, behind the empty line that sets it apart. -/
def entryLines (e : Entry) : List Char :=
  '\n' :: e.references.flatMap referenceLine ++ field "msgid".toList e.msgid ++
    (e.plural.map (field "msgid_plural".toList)).getD [] ++ slotLines e.msgstr

/-- The characters of a catalog: the entry of the empty message, which holds the headers,
    and then the entries. -/
def chars (c : Catalog) : List Char :=
  field "msgid".toList "" ++ field "msgstr".toList "" ++ c.headers.flatMap headerLine ++
    c.items.flatMap entryLines

def render (c : Catalog) : String := String.ofList c.chars

/-! ## Order -/

/-- The entries in the order of `compare` on their messages; entries that compare equal keep
    their order. -/
def sort (compare : String → String → Ordering) (c : Catalog) : Catalog :=
  { c with items := c.items.mergeSort fun a b => (compare a.msgid b.msgid).isLE }

end Catalog

end Potfile
