import Potfile.Markup.Construction
import Potfile.Markup.Element
import Potfile.Markup.Serialization

/-! # The translatable strings of a markup source

* `Document.elements`: the elements of a document that have attributes, in the order of their
  creation.
* `occurrences`: the translatable strings of a source, those of elements in front of those of
  interpolations.
-/

namespace Potfile.Markup

namespace Document

/-- The element that a node is, if it has attributes and its name is wanted. -/
def element? (d : Document) (wanted : String → Bool) (id : NodeId) : Option Element :=
  match (d.node id).content with
  | .element name attributes =>
    if attributes.isEmpty || !wanted name.text then none else some { attributes, inner := d.inner id }
  | _ => none

/-- The elements that have attributes and whose names are wanted, in the order of their
    creation, wherever they were moved later. -/
def elements (d : Document) (wanted : String → Bool) : List Element :=
  (List.range d.nodes.size).filterMap (d.element? wanted)

end Document

/-- Elements that exist once in a whole document. -/
def outline : List String := ["html", "head", "body"]

/-- The elements of a source. It is read as the content of a template, so that parts of tables
    may stand alone, and only the elements of the outline come from reading it as a document. -/
def elements (source : String) : List Element :=
  (Document.ofSource source).elements outline.contains
    ++ (Document.ofFragment ("<template>" ++ source ++ "</template>")).elements fun _ => true

/-- The translatable strings of a source: those of its elements, and then the interpolations
    anywhere in it. -/
def occurrences (d : Delimiters) (source : String) : List Occurrence :=
  (elements source).flatMap Element.occurrences ++ (d.messages source).map ({ text := · })

end Potfile.Markup
