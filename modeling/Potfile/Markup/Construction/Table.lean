import Potfile.Markup.Construction.Body

/-! # Tables

What may not stand in a table finds its place in front of it.

* `inTable`, `inTableText`, `inCaption`, `inColumnGroup`, `inTableBody`, `inRow`, `inCell`: the
  rules for tokens in the parts of a table.
-/

namespace Potfile.Markup.Build

/-! ## Groups of tags -/

def sections : List String := ["tbody", "tfoot", "thead"]

/-- Elements at which closing stops: those around the parts of a table, of a section, of a row. -/
def tableContext : List String := ["table", "template", "html"]

def sectionContext : List String := ["tbody", "tfoot", "thead", "template", "html"]

def rowContext : List String := ["tr", "template", "html"]

def cells : List String := ["td", "th"]

/-- A token in a table that belongs in front of it. -/
def fosterInBody (token : Token) : Build Action := do
  modify fun b => { b with fosterParenting := true }
  let action ← inBody token
  modify fun b => { b with fosterParenting := false }
  return action

/-! ## Modes -/

/-- The start tag of a table inside a table ends the outer one. -/
def tableInTable (tag : Tag) : Build Action := do
  if ← inScopeNamed tableScope "table" then
    popUntilNamed "table"
    return .again (fittingMode (← get)) (.startTag tag)
  else return .done

def startInTable (tag : Tag) : Build Action := do
  let again (mode : Mode) : Build Action := return .again mode (.startTag tag)
  match tag.name with
  | "caption" =>
    popUntilCurrent tableContext
    pushMarker
    let _ ← insertElement tag
    setMode .inCaption
    return .done
  | "colgroup" =>
    popUntilCurrent tableContext
    let _ ← insertElement tag
    setMode .inColumnGroup
    return .done
  | "col" =>
    popUntilCurrent tableContext
    let _ ← insertImplied "colgroup"
    again .inColumnGroup
  | "tbody" | "tfoot" | "thead" =>
    popUntilCurrent tableContext
    let _ ← insertElement tag
    setMode .inTableBody
    return .done
  | "td" | "th" | "tr" =>
    popUntilCurrent tableContext
    let _ ← insertImplied "tbody"
    again .inTableBody
  | "table" => tableInTable tag
  | "style" | "script" | "template" => headStart tag
  | "input" =>
    if isHidden tag then
      insertVoid tag
      return .done
    else fosterInBody (.startTag tag)
  | "form" =>
    if !(← isOpen "template") && (← get).form.isNone then
      let id ← insertLoose ⟨.html, "form"⟩ tag.attributes
      modify fun b => { b with form := some id }
    return .done
  | _ => fosterInBody (.startTag tag)

def endInTable (name : String) : Build Action := do
  match name with
  | "table" =>
    if ← inScopeNamed tableScope "table" then
      popUntilNamed "table"
      resetMode
    return .done
  | "body" | "caption" | "col" | "colgroup" | "html" | "tbody" | "td" | "tfoot" | "th"
  | "thead" | "tr" => return .done
  | "template" => templateEnd; return .done
  | _ => fosterInBody (.endTag name)

def inTable (token : Token) : Build Action := do
  match token with
  | .char _ =>
    if ← currentAmong ["table", "tbody", "tfoot", "thead", "tr"] then
      modify fun b => { b with originalMode := b.mode }
      return .again .inTableText token
    else fosterInBody token
  | .comment text => insertComment text; return .done
  | .startTag tag => startInTable tag
  | .endTag name => endInTable name
  | .endOfFile => inBody token
  | .doctype _ => return .done

/-- Puts characters in front of the table, one after another. -/
def fosterChars : List Char → Build Unit
  | [] => return
  | c :: rest => do
    let _ ← fosterInBody (.char c)
    fosterChars rest

/-- The characters of a table are collected: if there is more than blanks among them, all of
    them go in front of it. -/
def inTableText (token : Token) : Build Action := do
  match token with
  | .char c =>
    if c ≠ '\x00' then modify fun b => { b with tableText := c :: b.tableText }
    return .done
  | token =>
    let text := (← get).tableText.reverse
    modify fun b => { b with tableText := [] }
    if text.all isBlankChar then
      if !text.isEmpty then insertText (String.ofList text)
    else fosterChars text
    return .again (← get).originalMode token

def inCaption (token : Token) : Build Action := do
  let close (again : Option Token) : Build Action := do
    if ← inScopeNamed tableScope "caption" then
      generateImpliedEnd impliedEnd
      popUntilNamed "caption"
      clearToMarker
      match again with
      | none => do setMode .inTable; return .done
      | some token => return .again .inTable token
    else return .done
  match token with
  | .startTag tag =>
    if ["caption", "col", "colgroup", "tbody", "td", "tfoot", "th", "thead", "tr"].contains
        tag.name then
      close (some token)
    else inBody token
  | .endTag "table" => close (some token)
  | .endTag "caption" => close none
  | .endTag name =>
    if ["body", "col", "colgroup", "html", "tbody", "td", "tfoot", "th", "thead", "tr"].contains
        name then
      return .done
    else inBody token
  | _ => inBody token

def inColumnGroup (token : Token) : Build Action := do
  let leave : Build Action := do
    if ← currentIs "colgroup" then
      pop
      return .again .inTable token
    else return .done
  match token with
  | .char c =>
    if isBlankChar c then
      insertChar c
      return .done
    else leave
  | .comment text => insertComment text; return .done
  | .startTag tag =>
    match tag.name with
    | "html" => htmlStart tag; return .done
    | "col" => insertVoid tag; return .done
    | "template" => headStart tag
    | _ => leave
  | .endTag "colgroup" =>
    if ← currentIs "colgroup" then
      pop
      setMode .inTable
    return .done
  | .endTag "col" => return .done
  | .endTag "template" => templateEnd; return .done
  | .endOfFile => inBody token
  | _ => leave

def inTableBody (token : Token) : Build Action := do
  let leave : Build Action := do
    if ← inScopeAmong tableScope ["table", "tbody", "tfoot"] then
      popUntilCurrent sectionContext
      pop
      return .again .inTable token
    else return .done
  match token with
  | .startTag tag =>
    match tag.name with
    | "tr" =>
      popUntilCurrent sectionContext
      let _ ← insertElement tag
      setMode .inRow
      return .done
    | "th" | "td" =>
      popUntilCurrent sectionContext
      let _ ← insertImplied "tr"
      return .again .inRow token
    | "caption" | "col" | "colgroup" | "tbody" | "tfoot" | "thead" => leave
    | _ => inTable token
  | .endTag name =>
    match name with
    | "tbody" | "tfoot" | "thead" =>
      if ← inScopeNamed tableScope name then
        popUntilCurrent sectionContext
        pop
        setMode .inTable
      return .done
    | "table" => leave
    | "body" | "caption" | "col" | "colgroup" | "html" | "td" | "th" | "tr" => return .done
    | _ => inTable token
  | _ => inTable token

def inRow (token : Token) : Build Action := do
  let closeRow : Build Bool := do
    if ← inScopeNamed tableScope "tr" then
      popUntilCurrent rowContext
      pop
      return true
    else return false
  let leave : Build Action := do
    if ← closeRow then return .again .inTableBody token else return .done
  match token with
  | .startTag tag =>
    match tag.name with
    | "th" | "td" =>
      popUntilCurrent rowContext
      let _ ← insertElement tag
      setMode .inCell
      pushMarker
      return .done
    | "caption" | "col" | "colgroup" | "tbody" | "tfoot" | "thead" | "tr" => leave
    | _ => inTable token
  | .endTag name =>
    match name with
    | "tr" =>
      if ← closeRow then setMode .inTableBody
      return .done
    | "table" => leave
    | "tbody" | "tfoot" | "thead" =>
      if ← inScopeNamed tableScope name then leave else return .done
    | "body" | "caption" | "col" | "colgroup" | "html" | "td" | "th" => return .done
    | _ => inTable token
  | _ => inTable token

def inCell (token : Token) : Build Action := do
  let closeCell : Build Unit := do
    generateImpliedEnd impliedEnd
    popUntil fun b id => isAmong b cells id
    clearToMarker
  match token with
  | .startTag tag =>
    if ["caption", "col", "colgroup", "tbody", "td", "tfoot", "th", "thead", "tr"].contains
        tag.name then
      if ← inScopeAmong tableScope cells then
        closeCell
        return .again .inRow token
      else return .done
    else inBody token
  | .endTag name =>
    match name with
    | "td" | "th" =>
      if ← inScopeNamed tableScope name then
        generateImpliedEnd impliedEnd
        popUntilNamed name
        clearToMarker
        setMode .inRow
      return .done
    | "body" | "caption" | "col" | "colgroup" | "html" => return .done
    | "table" | "tbody" | "tfoot" | "thead" | "tr" =>
      if ← inScopeNamed tableScope name then
        closeCell
        return .again .inRow token
      else return .done
    | _ => inBody token
  | _ => inBody token

end Potfile.Markup.Build
