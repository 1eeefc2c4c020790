import Potfile.Markup.Document
import Potfile.Markup.Token.Reader

/-! # The state of building a document

While tokens arrive, the elements that are still open form a stack. What a token means depends
on the insertion mode and on that stack.

* `Mode`: the insertion modes. `Builder`: the whole state.
* `inScope`, `generateImpliedEnd`, `popUntil`: questions to the stack and changes of it.
* `insertElement`, `insertText`, `insertComment`: new nodes at the place where they belong.
-/

namespace Potfile.Markup

inductive Mode where
  | initial
  | beforeHtml
  | beforeHead
  | inHead
  | afterHead
  | inBody
  | text
  | inTable
  | inTableText
  | inCaption
  | inColumnGroup
  | inTableBody
  | inRow
  | inCell
  | inSelect
  | inSelectInTable
  | inTemplate
  | afterBody
  | inFrameset
  | afterFrameset
  | afterAfterBody
  | afterAfterFrameset
deriving DecidableEq, Repr, Inhabited

/-- An entry in the list of formatting elements, which are opened again where an end tag or a
    block closed them too early. A marker separates the entries of a cell or an object. -/
inductive Formatting where
  | marker
  | element (id : NodeId) (name : String) (attributes : List Attribute)
deriving DecidableEq, Repr, Inhabited

/-- What remains to be done for a token. -/
inductive Action where
  | done
  /-- The token has to be looked at again, in another mode. -/
  | again (mode : Mode) (token : Token)
  /-- The content of the element of this name follows without tokens. -/
  | raw (kind : RawKind) (name : String)
deriving Repr, Inhabited

structure Builder where
  document : Document := .empty
  mode : Mode := .initial
  /-- The mode to go back to behind raw text or the text of a table. -/
  originalMode : Mode := .initial
  /-- The modes of the open templates, the innermost first. -/
  templateModes : List Mode := []
  /-- The open elements, the current one first. -/
  stack : List NodeId := []
  /-- The formatting elements, the last one first. -/
  formatting : List Formatting := []
  /-- Characters of a table that have not found their place yet, the last one first. -/
  tableText : List Char := []
  head : Option NodeId := none
  form : Option NodeId := none
  /-- The element whose content is parsed, if it is not a whole document. -/
  context : Option NodeId := none
  framesetOk : Bool := true
  fosterParenting : Bool := false
  /-- A line feed that comes next does not count. -/
  skipsLine : Bool := false
  quirks : Bool := false
deriving Inhabited

abbrev Build := StateM Builder

namespace Build

/-! ## Names -/

/-- The name of an element; the document itself has none. -/
def nameOf (b : Builder) (id : NodeId) : ElementName :=
  (b.document.name? id).getD ⟨.html, ""⟩

/-- The element is one of the plain vocabulary with the given name. -/
def isNamed (b : Builder) (name : String) (id : NodeId) : Bool := nameOf b id == ⟨.html, name⟩

/-- The element is one of the plain vocabulary with one of the given names. -/
def isAmong (b : Builder) (names : List String) (id : NodeId) : Bool :=
  let n := nameOf b id
  n.vocabulary == .html && names.contains n.text

def currentIs (name : String) : Build Bool := do
  let b ← get
  return b.stack.head?.any (isNamed b name)

def currentAmong (names : List String) : Build Bool := do
  let b ← get
  return b.stack.head?.any (isAmong b names)

def isOpen (name : String) : Build Bool := do
  let b ← get
  return b.stack.any (isNamed b name)

/-! ## Sets of names -/

/-- Elements whose end tags may be left out. -/
def impliedEnd : List String :=
  ["dd", "dt", "li", "option", "optgroup", "p", "rb", "rp", "rt", "rtc"]

/-- Elements that the end of a template closes. -/
def thoroughlyImpliedEnd : List String :=
  impliedEnd ++ ["caption", "colgroup", "tbody", "td", "tfoot", "th", "thead", "tr"]

def headings : List String := ["h1", "h2", "h3", "h4", "h5", "h6"]

/-- Elements at which the search for an open element ends in any case. -/
def special : List String :=
  ["address", "applet", "area", "article", "aside", "base", "basefont", "bgsound", "blockquote",
   "body", "br", "button", "caption", "center", "col", "colgroup", "dd", "details", "dir", "div",
   "dl", "dt", "embed", "fieldset", "figcaption", "figure", "footer", "form", "frame", "frameset",
   "h1", "h2", "h3", "h4", "h5", "h6", "head", "header", "hgroup", "hr", "html", "iframe", "img",
   "input", "isindex", "li", "link", "listing", "main", "marquee", "menu", "meta", "nav",
   "noembed", "noframes", "noscript", "object", "ol", "p", "param", "plaintext", "pre", "script",
   "section", "select", "source", "style", "summary", "table", "tbody", "td", "template",
   "textarea", "tfoot", "th", "thead", "title", "tr", "track", "ul", "wbr", "xmp"]

/-! ## Scopes -/

/-- Text of formulas, in which the plain vocabulary may be used. -/
def isFormulaText (n : ElementName) : Bool :=
  n.vocabulary == .math && ["mi", "mo", "mn", "ms", "mtext"].contains n.text

/-- Parts of drawings, in which the plain vocabulary may be used. -/
def isDrawingText (n : ElementName) : Bool :=
  n.vocabulary == .svg && ["foreignObject", "desc", "title"].contains n.text

/-- Ends the search for an open element, with further names of elements that do. -/
def endsScope (more : List String) (n : ElementName) : Bool :=
  (n.vocabulary == .html && (["applet", "caption", "html", "table", "td", "th", "marquee",
    "object", "template"].contains n.text || more.contains n.text)) ||
  isFormulaText n || isDrawingText n

def defaultScope : ElementName → Bool := endsScope []

def listScope : ElementName → Bool := endsScope ["ol", "ul"]

def buttonScope : ElementName → Bool := endsScope ["button"]

def tableScope (n : ElementName) : Bool :=
  n.vocabulary == .html && ["html", "table", "template"].contains n.text

def selectScope (n : ElementName) : Bool :=
  !(n.vocabulary == .html && ["optgroup", "option"].contains n.text)

/-- Some open element is found before the search ends. -/
def inScope (scope : ElementName → Bool) (wanted : Builder → NodeId → Bool) : Build Bool := do
  let b ← get
  let rec go : List NodeId → Bool
    | [] => false
    | id :: rest => if wanted b id then true else if scope (nameOf b id) then false else go rest
  return go b.stack

def inScopeNamed (scope : ElementName → Bool) (name : String) : Build Bool :=
  inScope scope fun b id => isNamed b name id

def inScopeAmong (scope : ElementName → Bool) (names : List String) : Build Bool :=
  inScope scope fun b id => isAmong b names id

/-! ## Changes of the stack -/

def push (id : NodeId) : Build Unit := modify fun b => { b with stack := id :: b.stack }

def pop : Build Unit := modify fun b => { b with stack := b.stack.drop 1 }

/-- Closes elements up to the first that is wanted, and that one too. -/
def popUntil (wanted : Builder → NodeId → Bool) : Build Unit :=
  modify fun b => { b with stack := (b.stack.dropWhile fun id => !wanted b id).drop 1 }

def popUntilNamed (name : String) : Build Unit := popUntil fun b id => isNamed b name id

/-- Closes elements until one of the given names is the current one. -/
def popUntilCurrent (names : List String) : Build Unit :=
  modify fun b => { b with stack := b.stack.dropWhile fun id => !isAmong b names id }

/-- Closes elements whose end tags may be left out. -/
def generateImpliedEnd (names : List String) : Build Unit :=
  modify fun b => { b with stack := b.stack.dropWhile (isAmong b names) }

def generateImpliedEndExcept (name : String) : Build Unit :=
  generateImpliedEnd (impliedEnd.filter (· != name))

def removeFromStack (id : NodeId) : Build Unit :=
  modify fun b => { b with stack := b.stack.erase id }

def closeParagraph : Build Unit := do
  generateImpliedEndExcept "p"
  popUntilNamed "p"

def closeParagraphInScope : Build Unit := do
  if ← inScopeNamed buttonScope "p" then closeParagraph

def setMode (m : Mode) : Build Unit := modify fun b => { b with mode := m }

def forbidFrameset : Build Unit := modify fun b => { b with framesetOk := false }

/-- A character that takes up no place in a document: a blank or a carriage return. -/
def isBlankChar (c : Char) : Bool := isSpace c || c == '\r'

/-! ## New nodes -/

inductive Place where
  | lastIn (parent : NodeId)
  /-- In front of a table, or, if that is nowhere in the tree, at the end of the element that
      was open before it. -/
  | beside (table before : NodeId)

/-- Where a new node goes if its parent should be `target`. With foster parenting, nothing but
    the parts of a table goes into it. -/
def placeFor (b : Builder) (target : NodeId) : Place :=
  if b.fosterParenting && isAmong b ["table", "tbody", "tfoot", "thead", "tr"] target then
    go b.stack
  else .lastIn target
where
  go : List NodeId → Place
    | [] => .lastIn (b.stack.getLast?.getD Document.root)
    | id :: rest =>
      if isNamed b "template" id then .lastIn id
      else if isNamed b "table" id then .beside id (rest.head?.getD Document.root)
      else go rest

def insertNode (id : NodeId) (target : Option NodeId) : Build Unit :=
  modify fun b =>
    let document :=
      match placeFor b (target.getD (b.stack.head?.getD Document.root)) with
      | .lastIn parent => b.document.append parent id
      | .beside table before =>
        if (b.document.node table).parent.isSome then b.document.insertBefore table id
        else b.document.append before id
    { b with document }

def insertText (text : String) : Build Unit :=
  modify fun b =>
    let document :=
      match placeFor b (b.stack.head?.getD Document.root) with
      | .lastIn parent => b.document.appendText parent text
      | .beside table before =>
        if (b.document.node table).parent.isSome then b.document.insertTextBefore table text
        else b.document.appendText before text
    { b with document }

def insertChar (c : Char) : Build Unit := insertText (String.singleton c)

/-- A new node that is nowhere in the tree yet. -/
def create (c : Content) : Build NodeId := modifyGet fun b =>
  let (id, document) := b.document.create c
  (id, { b with document })

/-- Puts a new element where it belongs. -/
def insertLoose (name : ElementName) (attributes : List Attribute) : Build NodeId := do
  let id ← create (.element name attributes)
  insertNode id none
  return id

/-- Puts a new element where it belongs, and opens it. -/
def insertOpen (name : ElementName) (attributes : List Attribute) : Build NodeId := do
  let id ← insertLoose name attributes
  push id
  return id

def insertElement (tag : Tag) : Build NodeId := insertOpen ⟨.html, tag.name⟩ tag.attributes

/-- Opens an element whose start tag was left out. -/
def insertImplied (name : String) : Build NodeId := insertOpen ⟨.html, name⟩ []

/-- Inserts the element of a start tag, which has no content. -/
def insertVoid (tag : Tag) : Build Unit := do
  let _ ← insertLoose ⟨.html, tag.name⟩ tag.attributes

def insertComment (text : String) : Build Unit := do
  insertNode (← create (.comment text)) none

/-- Puts a comment at the end of a given node. -/
def insertCommentIn (parent : NodeId) (text : String) : Build Unit := do
  let id ← create (.comment text)
  modify fun b => { b with document := b.document.append parent id }

def createRoot (attributes : List Attribute) : Build Unit := do
  let id ← create (.element ⟨.html, "html"⟩ attributes)
  push id
  modify fun b => { b with document := b.document.append Document.root id }

/-- Opens an element whose content follows without tokens. -/
def insertRaw (tag : Tag) (kind : RawKind) : Build Action := do
  let _ ← insertElement tag
  modify fun b => { b with originalMode := b.mode, mode := .text }
  return .raw kind tag.name

/-- The element at the bottom of the stack. -/
def bottom : Build NodeId := return (← get).stack.getLast?.getD Document.root

/-- The insertion mode that fits the open elements. -/
def fittingMode (b : Builder) : Mode := go b.stack
where
  go : List NodeId → Mode
    | [] => .inBody
    | id :: rest =>
      let isLast := rest.isEmpty
      let id := if isLast then b.context.getD id else id
      let n := nameOf b id
      if n.vocabulary != .html then go rest
      else match n.text with
        | "select" =>
          match rest.find? (isAmong b ["template", "table"]) with
          | some outer => if isNamed b "table" outer then .inSelectInTable else .inSelect
          | none => .inSelect
        | "td" | "th" => if isLast then go rest else .inCell
        | "tr" => .inRow
        | "tbody" | "thead" | "tfoot" => .inTableBody
        | "caption" => .inCaption
        | "colgroup" => .inColumnGroup
        | "table" => .inTable
        | "template" => b.templateModes.head?.getD .inBody
        | "head" => if isLast then go rest else .inHead
        | "body" => .inBody
        | "frameset" => .inFrameset
        | "html" => if b.head.isSome then .afterHead else .beforeHead
        | _ => go rest

def resetMode : Build Unit := modify fun b => { b with mode := fittingMode b }

end Build

end Potfile.Markup
