import Potfile.Markup.Token

/-! # Documents

A document is a table of nodes. A node keeps its number, which is its place in the order of
creation, wherever it is moved; every link between nodes is by number.

* `Document.create`: a new node that is nowhere in the tree yet.
* `append`, `insertBefore`, `detach`, `moveChildren`: changes of the tree.
* `appendText`, `insertTextBefore`: new text becomes part of text that stands beside it.
-/

namespace Potfile.Markup

inductive Vocabulary where
  | html
  | svg
  | math
deriving DecidableEq, Repr, Inhabited

structure ElementName where
  vocabulary : Vocabulary
  text : String
deriving DecidableEq, Repr, Inhabited

inductive Content where
  | document
  | element (name : ElementName) (attributes : List Attribute)
  | text (text : String)
  | comment (text : String)
deriving DecidableEq, Repr, Inhabited

/-- The number of a node. -/
abbrev NodeId := Nat

/-- A node with its place in the tree. -/
structure Node where
  content : Content
  parent : Option NodeId := none
  children : List NodeId := []
deriving DecidableEq, Repr, Inhabited

/-- All nodes, in the order of their creation. The first one is the document itself. -/
structure Document where
  nodes : Array Node
deriving Repr, Inhabited

namespace Document

def root : NodeId := 0

def empty : Document := ⟨#[{ content := .document }]⟩

def node (d : Document) (id : NodeId) : Node := d.nodes.getD id { content := .document }

def modify (d : Document) (id : NodeId) (f : Node → Node) : Document :=
  ⟨d.nodes.modify id f⟩

def name? (d : Document) (id : NodeId) : Option ElementName :=
  match (d.node id).content with
  | .element name _ => some name
  | _ => none

/-- A new node that is nowhere in the tree yet. -/
def create (d : Document) (c : Content) : NodeId × Document :=
  (d.nodes.size, ⟨d.nodes.push { content := c }⟩)

/-- Takes a node out of its parent. -/
def detach (d : Document) (id : NodeId) : Document :=
  match (d.node id).parent with
  | none => d
  | some parent =>
    (d.modify parent fun n => { n with children := n.children.filter (· != id) }).modify id
      fun n => { n with parent := none }

/-- Makes a node the last child of another. -/
def append (d : Document) (parent id : NodeId) : Document :=
  ((d.detach id).modify parent fun n => { n with children := n.children ++ [id] }).modify id
    fun n => { n with parent := some parent }

/-- Puts `id` in front of `mark` in a list. -/
def insertInFront (mark id : NodeId) : List NodeId → List NodeId
  | [] => []
  | x :: xs => if x = mark then id :: x :: xs else x :: insertInFront mark id xs

/-- Puts a node in front of another, which has a parent. -/
def insertBefore (d : Document) (sibling id : NodeId) : Document :=
  let d := d.detach id
  match (d.node sibling).parent with
  | none => d
  | some parent =>
    (d.modify parent fun n => { n with children := insertInFront sibling id n.children }).modify id
      fun n => { n with parent := some parent }

/-- Adds text at the end of a text node; `none` if the node is no text. -/
def extendText? (d : Document) (id : NodeId) (text : String) : Option Document :=
  match (d.node id).content with
  | .text old => some (d.modify id fun n => { n with content := .text (old ++ text) })
  | _ => none

def appendText (d : Document) (parent : NodeId) (text : String) : Document :=
  match (d.node parent).children.getLast?.bind fun last => d.extendText? last text with
  | some d => d
  | none =>
    let (id, d) := d.create (.text text)
    d.append parent id

/-- The child in front of `mark`. -/
def previous? (mark : NodeId) : List NodeId → Option NodeId
  | x :: y :: rest => if y = mark then some x else previous? mark (y :: rest)
  | _ => none

/-- Adds text in front of a node that has a parent. -/
def insertTextBefore (d : Document) (sibling : NodeId) (text : String) : Document :=
  match (d.node sibling).parent with
  | none => d
  | some parent =>
    match (previous? sibling (d.node parent).children).bind fun before =>
      d.extendText? before text with
    | some d => d
    | none =>
      let (id, d) := d.create (.text text)
      d.insertBefore sibling id

def moveChildren (d : Document) (source target : NodeId) : Document :=
  (d.node source).children.foldl (fun d child => d.append target child) d

/-- Gives an element the attributes that it does not have yet. -/
def addMissing (d : Document) (id : NodeId) (more : List Attribute) : Document :=
  d.modify id fun n =>
    match n.content with
    | .element name old =>
      let add (found : List Attribute) (a : Attribute) : List Attribute :=
        if found.any (·.name = a.name) then found else found ++ [a]
      { n with content := .element name (more.foldl add old) }
    | _ => n

end Document

end Potfile.Markup
