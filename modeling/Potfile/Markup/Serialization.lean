import Potfile.Markup.Document

/-! # Writing a part of a document

* `Document.inner`: the content of an element, written as markup again.
-/

namespace Potfile.Markup

/-! ## Characters -/

/-- Text as it is written between tags. -/
def escapeText (text : String) : String :=
  String.ofList <| text.toList.flatMap fun c =>
    match c with
    | '&' => "&amp;".toList
    | '\u00A0' => "&nbsp;".toList
    | '<' => "&lt;".toList
    | '>' => "&gt;".toList
    | c => [c]

/-- The value of an attribute as it is written between quotes, in which brackets may stand. -/
def escapeValue (text : String) : String :=
  String.ofList <| text.toList.flatMap fun c =>
    match c with
    | '&' => "&amp;".toList
    | '\u00A0' => "&nbsp;".toList
    | '"' => "&quot;".toList
    | c => [c]

/-! ## Elements -/

/-- Elements that have neither content nor an end tag. -/
def ElementName.isVoid (name : ElementName) : Bool :=
  name.vocabulary == .html &&
    ["area", "base", "basefont", "bgsound", "br", "col", "embed", "frame", "hr", "img", "input",
     "keygen", "link", "meta", "param", "source", "track", "wbr"].contains name.text

/-- Elements in which no character needs another spelling. -/
def ElementName.holdsRawText (name : ElementName) : Bool :=
  name.vocabulary == .html &&
    ["style", "script", "xmp", "iframe", "noembed", "noframes", "plaintext"].contains name.text

def startTagText (name : ElementName) (attributes : List Attribute) : String :=
  "<" ++ name.text
    ++ String.join (attributes.map fun a => " " ++ a.name ++ "=\"" ++ escapeValue a.value ++ "\"")
    ++ ">"

namespace Document

/-- A node as markup. `isRaw` tells that the node is directly inside an element of raw text. No
    node is deeper in the tree than there are nodes. -/
def render (d : Document) : (depth : Nat) → (isRaw : Bool) → NodeId → String
  | 0, _, _ => ""
  | depth + 1, isRaw, id =>
    match (d.node id).content with
    | .document => ""
    | .text text => if isRaw then text else escapeText text
    | .comment text => "<!--" ++ text ++ "-->"
    | .element name attributes =>
      if name.isVoid then startTagText name attributes
      else
        let content := (d.node id).children.map (d.render depth name.holdsRawText)
        startTagText name attributes ++ String.join content ++ "</" ++ name.text ++ ">"

/-- The content of an element as markup. Text that stands directly in the element is escaped,
    whatever the element is. -/
def inner (d : Document) (id : NodeId) : String :=
  String.join ((d.node id).children.map (d.render d.nodes.size false))

end Document

end Potfile.Markup
