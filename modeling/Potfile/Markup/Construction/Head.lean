import Potfile.Markup.Construction.Formatting

/-! # The head of a document

* `htmlStart`: a second start tag of the root element.
* `headStart`: the start tags that mean the same in the head and in the body of a document: those of
  scripts, styles and titles. `templateStart` and `templateEnd` are those of templates.
-/

namespace Potfile.Markup.Build

/-- A second start tag of the root element adds attributes to it, except inside a template. -/
def htmlStart (tag : Tag) : Build Unit := do
  if !(← isOpen "template") then
    let root ← bottom
    modify fun b => { b with document := b.document.addMissing root tag.attributes }

def templateStart (tag : Tag) : Build Unit := do
  let _ ← insertElement tag
  pushMarker
  modify fun b => { b with
    framesetOk := false
    mode := .inTemplate
    templateModes := .inTemplate :: b.templateModes }

def templateEnd : Build Unit := do
  if ← isOpen "template" then
    generateImpliedEnd thoroughlyImpliedEnd
    popUntilNamed "template"
    clearToMarker
    modify fun b => { b with templateModes := b.templateModes.drop 1 }
    resetMode

/-- Start tags of the head that may stand elsewhere too. -/
def headTags : List String :=
  ["base", "basefont", "bgsound", "link", "meta", "noframes", "script", "style", "template",
   "title"]

/-- A start tag that means the same in the head and elsewhere. -/
def headStart (tag : Tag) : Build Action := do
  match tag.name with
  | "title" => insertRaw tag .references
  | "noframes" | "style" => insertRaw tag .plain
  | "script" => insertRaw tag .script
  | "template" => do templateStart tag; return .done
  | _ => do insertVoid tag; return .done

/-- The end of the source inside a template. -/
def templateEof (token : Token) : Build Action := do
  if ← isOpen "template" then
    popUntilNamed "template"
    clearToMarker
    modify fun b => { b with templateModes := b.templateModes.drop 1 }
    resetMode
    return .again (← get).mode token
  else return .done

end Potfile.Markup.Build
