import Potfile.Markup.Construction.Head
import Potfile.Markup.Construction.Foreign

/-! # The body of a document

* `inBody`: the rules for tokens in the body, which most other modes fall back to.
-/

namespace Potfile.Markup.Build

def body? (b : Builder) : Option NodeId :=
  match b.stack.reverse with
  | _ :: id :: _ => if isNamed b "body" id then some id else none
  | _ => none

/-- The field takes no place on a page. -/
def isHidden (tag : Tag) : Bool := (tag.get? "type").any (·.toLower == "hidden")

/-! ## Groups of tags -/

/-- Blocks that close a paragraph. -/
def blocks : List String :=
  ["address", "article", "aside", "blockquote", "center", "details", "dialog", "dir", "div", "dl",
   "fieldset", "figcaption", "figure", "footer", "header", "hgroup", "main", "menu", "nav", "ol",
   "p", "section", "summary", "ul"]

/-- Elements whose end tags close everything up to them. -/
def closable : List String :=
  ["address", "article", "aside", "blockquote", "button", "center", "details", "dialog", "dir",
   "div", "dl", "fieldset", "figcaption", "figure", "footer", "header", "hgroup", "listing",
   "main", "menu", "nav", "ol", "pre", "section", "summary", "ul"]

/-- Formatting elements that may be nested in themselves. -/
def formatters : List String :=
  ["b", "big", "code", "em", "font", "i", "s", "small", "strike", "strong", "tt", "u"]

/-- Parts of tables and documents whose start tags mean nothing here. -/
def strayParts : List String :=
  ["caption", "col", "colgroup", "frame", "head", "tbody", "td", "tfoot", "th", "thead", "tr"]

/-! ## Start tags -/

/-- The start tag of an item closes the item before it in the same list. -/
def itemStart (tag : Tag) : Build Unit := do
  forbidFrameset
  let closed := if tag.name == "li" then ["li"] else ["dd", "dt"]
  let stops := special.filter fun n => !(["address", "div", "p"].contains n)
  let b ← get
  match b.stack.find? fun id => isAmong b (closed ++ stops) id with
  | some id =>
    if isAmong b closed id then
      let name := (nameOf b id).text
      generateImpliedEndExcept name
      popUntilNamed name
  | none => pure ()
  closeParagraphInScope
  let _ ← insertElement tag

/-- The start tag of a link closes a link that is still open. -/
def linkStart (tag : Tag) : Build Unit := do
  let b ← get
  let isLink : Formatting → Bool
    | .marker => false
    | .element id _ _ => isNamed b "a" id
  match (recentFormatting b).find? isLink with
  | some (.element id _ _) =>
    closeFormatting "a"
    dropFormatting id
    removeFromStack id
  | _ => pure ()
  reconstructFormatting
  insertFormatting tag

def bodyStart (tag : Tag) : Build Unit := do
  let b ← get
  if !(← isOpen "template") then
    match body? b with
    | some id =>
      modify fun b => { b with
        framesetOk := false
        document := b.document.addMissing id tag.attributes }
    | none => return

def framesetStart (tag : Tag) : Build Unit := do
  let b ← get
  if b.framesetOk then
    match body? b with
    | none => return
    | some id =>
      modify fun b => { b with
        document := b.document.detach id
        stack := b.stack.reverse.take 1 }
      let _ ← insertElement tag
      setMode .inFrameset

def formStart (tag : Tag) : Build Unit := do
  let inTemplate ← isOpen "template"
  if (← get).form.isSome && !inTemplate then return
  closeParagraphInScope
  let id ← insertElement tag
  if !inTemplate then modify fun b => { b with form := some id }

def buttonStart (tag : Tag) : Build Unit := do
  if ← inScopeNamed defaultScope "button" then
    generateImpliedEnd impliedEnd
    popUntilNamed "button"
  reconstructFormatting
  let _ ← insertElement tag
  forbidFrameset

def selectStart (tag : Tag) : Build Unit := do
  reconstructFormatting
  let _ ← insertElement tag
  modify fun b => { b with
    framesetOk := false
    mode := match b.mode with
      | .inTable | .inCaption | .inTableBody | .inRow | .inCell => .inSelectInTable
      | _ => .inSelect }

/-- A start tag of an element without content, as text is. -/
def inlineVoid (tag : Tag) : Build Unit := do
  reconstructFormatting
  insertVoid tag
  if !(tag.name == "input" && isHidden tag) then forbidFrameset

def nobrStart (tag : Tag) : Build Unit := do
  reconstructFormatting
  if ← inScopeNamed defaultScope "nobr" then
    closeFormatting "nobr"
    reconstructFormatting
  insertFormatting tag

def startInBody (tag : Tag) : Build Action := do
  let name := tag.name
  if name == "html" then htmlStart tag; return .done
  if headTags.contains name then return ← headStart tag
  if blocks.contains name then
    closeParagraphInScope
    let _ ← insertElement tag
    return .done
  if headings.contains name then
    closeParagraphInScope
    if ← currentAmong headings then pop
    let _ ← insertElement tag
    return .done
  if formatters.contains name then
    reconstructFormatting
    insertFormatting tag
    return .done
  if strayParts.contains name then return .done
  match name with
  | "body" => bodyStart tag; return .done
  | "frameset" => framesetStart tag; return .done
  | "pre" | "listing" =>
    closeParagraphInScope
    let _ ← insertElement tag
    modify fun b => { b with skipsLine := true, framesetOk := false }
    return .done
  | "form" => formStart tag; return .done
  | "li" | "dd" | "dt" => itemStart tag; return .done
  | "plaintext" =>
    closeParagraphInScope
    let _ ← insertElement tag
    return .raw .endless name
  | "button" => buttonStart tag; return .done
  | "a" => linkStart tag; return .done
  | "nobr" => nobrStart tag; return .done
  | "applet" | "marquee" | "object" =>
    reconstructFormatting
    let _ ← insertElement tag
    pushMarker
    forbidFrameset
    return .done
  | "table" =>
    if !(← get).quirks then closeParagraphInScope
    let _ ← insertElement tag
    forbidFrameset
    setMode .inTable
    return .done
  | "area" | "br" | "embed" | "img" | "keygen" | "wbr" | "input" =>
    inlineVoid tag
    return .done
  | "image" => inlineVoid { tag with name := "img" }; return .done
  | "param" | "source" | "track" => insertVoid tag; return .done
  | "hr" =>
    closeParagraphInScope
    insertVoid tag
    forbidFrameset
    return .done
  | "textarea" =>
    modify fun b => { b with skipsLine := true, framesetOk := false }
    insertRaw tag .references
  | "xmp" =>
    closeParagraphInScope
    reconstructFormatting
    forbidFrameset
    insertRaw tag .plain
  | "iframe" =>
    forbidFrameset
    insertRaw tag .plain
  | "noembed" | "noscript" => insertRaw tag .plain
  | "select" => selectStart tag; return .done
  | "optgroup" | "option" =>
    if ← currentIs "option" then pop
    reconstructFormatting
    let _ ← insertElement tag
    return .done
  | "rb" | "rtc" =>
    if ← inScopeNamed defaultScope "ruby" then generateImpliedEnd impliedEnd
    let _ ← insertElement tag
    return .done
  | "rp" | "rt" =>
    if ← inScopeNamed defaultScope "ruby" then generateImpliedEndExcept "rtc"
    let _ ← insertElement tag
    return .done
  | "math" => insertForeign .math tag; return .done
  | "svg" => insertForeign .svg tag; return .done
  | _ =>
    reconstructFormatting
    let _ ← insertElement tag
    return .done

/-! ## End tags -/

def formEnd : Build Unit := do
  if ← isOpen "template" then
    if ← inScopeNamed defaultScope "form" then
      generateImpliedEnd impliedEnd
      popUntilNamed "form"
  else
    match (← get).form with
    | none => return
    | some id =>
      modify fun b => { b with form := none }
      if ← inScope defaultScope fun _ x => x == id then
        generateImpliedEnd impliedEnd
        removeFromStack id

def endInBody (name : String) : Build Action := do
  if closable.contains name then
    if ← inScopeNamed defaultScope name then
      generateImpliedEnd impliedEnd
      popUntilNamed name
    return .done
  if headings.contains name then
    if ← inScopeAmong defaultScope headings then
      generateImpliedEnd impliedEnd
      popUntil fun b id => isAmong b headings id
    return .done
  if formatters.contains name || name == "a" || name == "nobr" then
    closeFormatting name
    return .done
  match name with
  | "template" => templateEnd; return .done
  | "body" =>
    if ← inScopeNamed defaultScope "body" then setMode .afterBody
    return .done
  | "html" =>
    if ← inScopeNamed defaultScope "body" then return .again .afterBody (.endTag name)
    return .done
  | "form" => formEnd; return .done
  | "p" =>
    if !(← inScopeNamed buttonScope "p") then
      let _ ← insertImplied "p"
    closeParagraph
    return .done
  | "li" | "dd" | "dt" =>
    if ← inScopeNamed (if name == "li" then listScope else defaultScope) name then
      generateImpliedEndExcept name
      popUntilNamed name
    return .done
  | "applet" | "marquee" | "object" =>
    if ← inScopeNamed defaultScope name then
      generateImpliedEnd impliedEnd
      popUntilNamed name
      clearToMarker
    return .done
  | "br" =>
    inlineVoid { name }
    return .done
  | _ => endOther name; return .done

/-- A character in the body. A null character means nothing. -/
def charInBody (c : Char) : Build Unit := do
  if c ≠ '\x00' then
    reconstructFormatting
    if !isBlankChar c then forbidFrameset
    insertChar c

def inBody (token : Token) : Build Action := do
  match token with
  | .char c => charInBody c; return .done
  | .comment text => insertComment text; return .done
  | .startTag tag => startInBody tag
  | .endTag name => endInBody name
  | .doctype _ => return .done
  | .endOfFile =>
    if (← get).templateModes.isEmpty then return .done else templateEof token

end Potfile.Markup.Build
