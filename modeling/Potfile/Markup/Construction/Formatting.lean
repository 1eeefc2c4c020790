import Potfile.Markup.Construction.State

/-! # Formatting elements

Formatting elements may overlap with each other and with blocks in a source. In the tree they
are split up.

* `reconstructFormatting`: opens again what was closed too early.
* `closeFormatting`: the end tag of a formatting element.
* `endOther`: the end tag of any other element.
-/

namespace Potfile.Markup.Build

namespace Entry

/-- The entry is that of the given element. -/
def isFor (id : NodeId) : Formatting → Bool
  | .marker => false
  | .element x _ _ => x == id

def isMarker : Formatting → Bool
  | .marker => true
  | .element .. => false

end Entry

/-- The entries behind the last marker, the last one first. -/
def recentFormatting (b : Builder) : List Formatting :=
  b.formatting.takeWhile (!Entry.isMarker ·)

def pushMarker : Build Unit := modify fun b => { b with formatting := .marker :: b.formatting }

def clearToMarker : Build Unit :=
  modify fun b => { b with formatting := (b.formatting.dropWhile (!Entry.isMarker ·)).drop 1 }

/-- Takes the entry of an element out of the list. -/
def dropFormatting (id : NodeId) : Build Unit :=
  modify fun b => { b with formatting := b.formatting.eraseP (Entry.isFor id) }

/-- Gives the entry of an element a new value. -/
def replaceFormatting (id : NodeId) (entry : Formatting) : Build Unit :=
  modify fun b => { b with formatting := go b.formatting }
where
  go : List Formatting → List Formatting
    | [] => []
    | f :: fs => if Entry.isFor id f then entry :: fs else f :: go fs

/-- The entry needs no new element. -/
def isSettled (b : Builder) : Formatting → Bool
  | .marker => true
  | .element id _ _ => b.stack.contains id

/-- Opens the elements of some entries again, the first entry first. -/
def reopen : List Formatting → Build Unit
  | [] => return
  | .marker :: rest => reopen rest
  | .element id name attributes :: rest => do
    let new ← insertOpen ⟨.html, name⟩ attributes
    replaceFormatting id (.element new name attributes)
    reopen rest

/-- Opens again the formatting elements that were closed too early. -/
def reconstructFormatting : Build Unit := do
  let b ← get
  reopen (b.formatting.takeWhile (!isSettled b ·)).reverse

/-- The same attributes, in whatever order. -/
def sameAttributes (xs ys : List Attribute) : Bool :=
  xs.length == ys.length && xs.all ys.contains

/-- Removes the earliest of three recent entries that equal a new one. -/
def limitFormatting (name : String) (attributes : List Attribute) : Build Unit := do
  let b ← get
  let equal : Formatting → Bool
    | .marker => false
    | .element _ n a => n == name && sameAttributes a attributes
  match (recentFormatting b).filter equal with
  | matching@(_ :: _ :: _ :: _) =>
    match matching.getLast? with
    | some (.element id _ _) => dropFormatting id
    | _ => return
  | _ => return

/-- Opens a formatting element and notes it. -/
def insertFormatting (tag : Tag) : Build Unit := do
  limitFormatting tag.name tag.attributes
  let id ← insertElement tag
  modify fun b => { b with formatting := .element id tag.name tag.attributes :: b.formatting }

/-! ## End tags -/

/-- The end tag of an element that has no rule of its own: closes the open element of that name,
    unless a special element stands in the way. -/
def endOther (name : String) : Build Unit := do
  let b ← get
  match b.stack.find? fun id => isNamed b name id || isAmong b special id with
  | none => return
  | some id =>
    if isNamed b name id then
      modify fun b => { b with stack := (b.stack.dropWhile (· != id)).drop 1 }

/-- Splits the elements between a block and a formatting element, the innermost first: those
    that are no formatting elements, and all but three, are closed; the others get copies, each
    of which takes the one before it as a child. Gives the copies, the innermost first, and the
    outermost of them, or the block. -/
def splitBetween (block : NodeId) : (counter : Nat) → (last : NodeId) → List NodeId →
    Build (List NodeId × NodeId × Option NodeId)
  | _, last, [] => return ([], last, none)
  | counter, last, id :: rest => do
    let b ← get
    match b.formatting.find? (Entry.isFor id) with
    | some (.element _ name attributes) =>
      if 3 ≤ counter then
        dropFormatting id
        splitBetween block (counter + 1) last rest
      else
        let copy ← create (.element ⟨.html, name⟩ attributes)
        replaceFormatting id (.element copy name attributes)
        modify fun b => { b with document := b.document.append copy last }
        let (copies, outer, first) ← splitBetween block (counter + 1) copy rest
        -- The first copy is the one right above the block.
        return (copy :: copies, outer, if last = block then some copy else first)
    | _ => splitBetween block (counter + 1) last rest

/-- Puts an entry behind that of the given element, and drops another entry. -/
def insertFormattingAfter (mark : NodeId) (entry : Formatting) (dropped : NodeId) : Build Unit := do
  modify fun b => { b with formatting := go b.formatting }
  dropFormatting dropped
where
  go : List Formatting → List Formatting
    | [] => []
    | f :: fs => if Entry.isFor mark f then entry :: f :: fs else f :: go fs

/-- One round of closing a formatting element. Gives whether another round may follow. -/
def closeFormattingOnce (name : String) : Build Bool := do
  let b ← get
  let wanted : Formatting → Bool
    | .marker => false
    | .element _ n _ => n == name
  match (recentFormatting b).find? wanted with
  | none | some .marker =>
    endOther name
    return false
  | some (.element id _ attributes) =>
    if !b.stack.contains id then
      dropFormatting id
      return false
    if !(← inScope defaultScope fun _ x => x == id) then return false
    let above := b.stack.takeWhile (· != id)
    let below := (b.stack.dropWhile (· != id)).drop 1
    match (above.filter (isAmong b special)).getLast? with
    | none =>
      modify fun b => { b with stack := below }
      dropFormatting id
      return false
    | some block =>
      let inner := above.takeWhile (· != block)
      let between := (above.dropWhile (· != block)).drop 1
      let (copies, outer, first) ← splitBetween block 0 block between
      modify fun b => { b with document := b.document.detach outer }
      insertNode outer (some (below.head?.getD Document.root))
      let copy ← create (.element ⟨.html, name⟩ attributes)
      modify fun b => { b with document :=
        ((b.document.moveChildren block copy).append block copy) }
      let entry : Formatting := .element copy name attributes
      match first with
      | none => replaceFormatting id entry
      | some mark => insertFormattingAfter mark entry id
      modify fun b => { b with stack := inner ++ copy :: block :: copies ++ below }
      return true

/-- Rounds of closing a formatting element. -/
def closeFormattingRounds (name : String) : (rounds : Nat) → Build Unit
  | 0 => return
  | rounds + 1 => do if ← closeFormattingOnce name then closeFormattingRounds name rounds

def closeFormatting (name : String) : Build Unit := do
  let b ← get
  match b.stack.head? with
  | some id =>
    if isNamed b name id && !b.formatting.any (Entry.isFor id) then pop
    else closeFormattingRounds name 8
  | none => return

end Potfile.Markup.Build
