/-! # Tokens of markup

* `Token`: the parts into which a source text is cut: tags, characters, comments and document
  types.
-/

namespace Potfile.Markup

structure Attribute where
  name : String
  value : String
deriving DecidableEq, Repr, Inhabited

/-- A tag, without the brackets. -/
structure Tag where
  name : String
  attributes : List Attribute := []
  /-- The tag closes itself by a slash at its end. -/
  isSelfClosing : Bool := false
deriving DecidableEq, Repr, Inhabited

def Tag.get? (t : Tag) (name : String) : Option String :=
  (t.attributes.find? (·.name = name)).map (·.value)

structure Doctype where
  name : Option String := none
  publicId : Option String := none
  systemId : Option String := none
  isBroken : Bool := false
deriving DecidableEq, Repr, Inhabited

inductive Token where
  | startTag (tag : Tag)
  | endTag (name : String)
  | char (c : Char)
  | comment (text : String)
  | doctype (d : Doctype)
  | endOfFile
deriving DecidableEq, Repr, Inhabited

end Potfile.Markup
