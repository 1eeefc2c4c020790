import Potfile.Markup.Construction.Body

/-! # The outline of a document

* The rules for tokens in front of the body (`initial`, `beforeHtml`, `beforeHead`, `inHead`,
  `afterHead`), behind it (`afterBody`, `afterAfterBody`), in frames, and in a template.
-/

namespace Potfile.Markup.Build

/-! ## Document types -/

/-- Beginnings of public identifiers of old documents. -/
def oldIdentifiers : List String :=
  ["-//advasoft ltd//dtd html 3.0 aswedit + extensions//",
   "-//as//dtd html 3.0 aswedit + extensions//",
   "-//ietf//dtd html 2.0 level 1//", "-//ietf//dtd html 2.0 level 2//",
   "-//ietf//dtd html 2.0 strict level 1//", "-//ietf//dtd html 2.0 strict level 2//",
   "-//ietf//dtd html 2.0 strict//", "-//ietf//dtd html 2.0//", "-//ietf//dtd html 2.1e//",
   "-//ietf//dtd html 3.0//", "-//ietf//dtd html 3.2 final//", "-//ietf//dtd html 3.2//",
   "-//ietf//dtd html 3//", "-//ietf//dtd html level 0//", "-//ietf//dtd html level 1//",
   "-//ietf//dtd html level 2//", "-//ietf//dtd html level 3//",
   "-//ietf//dtd html strict level 0//", "-//ietf//dtd html strict level 1//",
   "-//ietf//dtd html strict level 2//", "-//ietf//dtd html strict level 3//",
   "-//ietf//dtd html strict//", "-//ietf//dtd html//",
   "-//metrius//dtd metrius presentational//",
   "-//microsoft//dtd internet explorer 2.0 html strict//",
   "-//microsoft//dtd internet explorer 2.0 html//",
   "-//microsoft//dtd internet explorer 2.0 tables//",
   "-//microsoft//dtd internet explorer 3.0 html strict//",
   "-//microsoft//dtd internet explorer 3.0 html//",
   "-//microsoft//dtd internet explorer 3.0 tables//", "-//netscape comm. corp.//dtd html//",
   "-//netscape comm. corp.//dtd strict html//", "-//o'reilly and associates//dtd html 2.0//",
   "-//o'reilly and associates//dtd html extended 1.0//",
   "-//o'reilly and associates//dtd html extended relaxed 1.0//",
   "-//softquad software//dtd hotmetal pro 6.0::19990601::extensions to html 4.0//",
   "-//softquad//dtd hotmetal pro 4.0::19971010::extensions to html 4.0//",
   "-//spyglass//dtd html 2.0 extended//", "-//sq//dtd html 2.0 hotmetal + extensions//",
   "-//sun microsystems corp.//dtd hotjava html//",
   "-//sun microsystems corp.//dtd hotjava strict html//",
   "-//w3c//dtd html 3 1995-03-24//", "-//w3c//dtd html 3.2 draft//",
   "-//w3c//dtd html 3.2 final//", "-//w3c//dtd html 3.2//", "-//w3c//dtd html 3.2s draft//",
   "-//w3c//dtd html 4.0 frameset//", "-//w3c//dtd html 4.0 transitional//",
   "-//w3c//dtd html experimental 19960712//", "-//w3c//dtd html experimental 970421//",
   "-//w3c//dtd w3 html//", "-//w3o//dtd w3 html 3.0//", "-//webtechs//dtd mozilla html 2.0//",
   "-//webtechs//dtd mozilla html//"]

/-- Identifiers of documents that are old without a system identifier. -/
def halfOldIdentifiers : List String :=
  ["-//w3c//dtd html 4.01 frameset//", "-//w3c//dtd html 4.01 transitional//"]

/-- The document is an old one, whose paragraphs may hold tables. -/
def isOld (d : Doctype) : Bool :=
  let publicId := (d.publicId.getD "").toLower
  let systemId := d.systemId.map String.toLower
  d.isBroken || d.name != some "html" ||
  ["-//w3o//dtd w3 html strict 3.0//en//", "-/w3c/dtd html 4.0 transitional/en", "html"].contains
    publicId ||
  systemId.any (·.endsWith "www.ibm.com/data/dtd/v11/ibmxhtml1-transitional.dtd") ||
  oldIdentifiers.any (fun old => publicId.startsWith old) ||
  (systemId.isNone && halfOldIdentifiers.any (fun old => publicId.startsWith old))

/-! ## In front of the body -/

def initial (token : Token) : Build Action := do
  match token with
  | .comment text => insertCommentIn Document.root text; return .done
  | .doctype d =>
    modify fun b => { b with quirks := isOld d, mode := .beforeHtml }
    return .done
  | _ =>
    if (match token with | .char c => isBlankChar c | _ => false) then return .done
    else
      modify fun b => { b with quirks := true }
      return .again .beforeHtml token

/-- End tags that mean something in front of the body. -/
def meaningfulEnds : List String := ["head", "body", "html", "br"]

def beforeHtml (token : Token) : Build Action := do
  let leave : Build Action := do
    createRoot []
    return .again .beforeHead token
  match token with
  | .char c => if isBlankChar c then return .done else leave
  | .comment text => insertCommentIn Document.root text; return .done
  | .startTag tag =>
    if tag.name == "html" then
      createRoot tag.attributes
      setMode .beforeHead
      return .done
    else leave
  | .endTag name => if meaningfulEnds.contains name then leave else return .done
  | .doctype _ => return .done
  | .endOfFile => leave

def beforeHead (token : Token) : Build Action := do
  let leave : Build Action := do
    let id ← insertImplied "head"
    modify fun b => { b with head := some id }
    return .again .inHead token
  match token with
  | .char c => if isBlankChar c then return .done else leave
  | .comment text => insertComment text; return .done
  | .startTag tag =>
    match tag.name with
    | "html" => htmlStart tag; return .done
    | "head" =>
      let id ← insertElement tag
      modify fun b => { b with head := some id, mode := .inHead }
      return .done
    | _ => leave
  | .endTag name => if meaningfulEnds.contains name then leave else return .done
  | .doctype _ => return .done
  | .endOfFile => leave

def inHead (token : Token) : Build Action := do
  let leave : Build Action := do
    pop
    return .again .afterHead token
  match token with
  | .char c =>
    if isBlankChar c then
      insertChar c
      return .done
    else leave
  | .comment text => insertComment text; return .done
  | .startTag tag =>
    if headTags.contains tag.name then headStart tag
    else match tag.name with
      | "html" => htmlStart tag; return .done
      | "noscript" => insertRaw tag .plain
      | "head" => return .done
      | _ => leave
  | .endTag name =>
    match name with
    | "head" =>
      pop
      setMode .afterHead
      return .done
    | "body" | "html" | "br" => leave
    | "template" => templateEnd; return .done
    | _ => return .done
  | .doctype _ => return .done
  | .endOfFile => leave

def afterHead (token : Token) : Build Action := do
  let leave : Build Action := do
    let _ ← insertImplied "body"
    return .again .inBody token
  match token with
  | .char c =>
    if isBlankChar c then
      insertChar c
      return .done
    else leave
  | .comment text => insertComment text; return .done
  | .startTag tag =>
    if headTags.contains tag.name then
      match (← get).head with
      | none => headStart tag
      | some head =>
        push head
        let action ← headStart tag
        removeFromStack head
        return action
    else match tag.name with
      | "html" => htmlStart tag; return .done
      | "body" =>
        let _ ← insertElement tag
        modify fun b => { b with framesetOk := false, mode := .inBody }
        return .done
      | "frameset" =>
        let _ ← insertElement tag
        setMode .inFrameset
        return .done
      | "head" => return .done
      | _ => leave
  | .endTag name =>
    match name with
    | "template" => templateEnd; return .done
    | "body" | "html" | "br" => leave
    | _ => return .done
  | .doctype _ => return .done
  | .endOfFile => leave

/-! ## Behind the body -/

def afterBody (token : Token) : Build Action := do
  match token with
  | .char c => if isBlankChar c then inBody token else return .again .inBody token
  | .comment text => insertCommentIn (← bottom) text; return .done
  | .startTag tag =>
    if tag.name == "html" then
      htmlStart tag
      return .done
    else return .again .inBody token
  | .endTag "html" =>
    if (← get).context.isNone then setMode .afterAfterBody
    return .done
  | .endTag _ => return .again .inBody token
  | .doctype _ => return .done
  | .endOfFile => return .done

def afterAfterBody (token : Token) : Build Action := do
  match token with
  | .char c => if isBlankChar c then inBody token else return .again .inBody token
  | .comment text => insertCommentIn Document.root text; return .done
  | .startTag tag =>
    if tag.name == "html" then
      htmlStart tag
      return .done
    else return .again .inBody token
  | .endTag _ => return .again .inBody token
  | .doctype _ => return .done
  | .endOfFile => return .done

/-! ## Frames -/

def inFrameset (token : Token) : Build Action := do
  match token with
  | .char c =>
    if isBlankChar c then insertChar c
    return .done
  | .comment text => insertComment text; return .done
  | .startTag tag =>
    match tag.name with
    | "html" => htmlStart tag; return .done
    | "frameset" =>
      let _ ← insertElement tag
      return .done
    | "frame" => insertVoid tag; return .done
    | "noframes" => headStart tag
    | _ => return .done
  | .endTag "frameset" =>
    if 1 < (← get).stack.length then
      pop
      if (← get).context.isNone && !(← currentIs "frameset") then setMode .afterFrameset
    return .done
  | _ => return .done

def afterFrameset (token : Token) : Build Action := do
  match token with
  | .char c =>
    if isBlankChar c then insertChar c
    return .done
  | .comment text => insertComment text; return .done
  | .startTag tag =>
    match tag.name with
    | "html" => htmlStart tag; return .done
    | "noframes" => headStart tag
    | _ => return .done
  | .endTag "html" => setMode .afterAfterFrameset; return .done
  | _ => return .done

def afterAfterFrameset (token : Token) : Build Action := do
  match token with
  | .char c => if isBlankChar c then inBody token else return .done
  | .comment text => insertCommentIn Document.root text; return .done
  | .startTag tag =>
    match tag.name with
    | "html" => htmlStart tag; return .done
    | "noframes" => headStart tag
    | _ => return .done
  | _ => return .done

/-! ## Templates -/

/-- In a template, the first tag decides which rules are used. -/
def inTemplate (token : Token) : Build Action := do
  let switch (mode : Mode) : Build Action := do
    modify fun b => { b with templateModes := mode :: b.templateModes.drop 1 }
    return .again mode token
  match token with
  | .char _ | .comment _ => inBody token
  | .startTag tag =>
    if headTags.contains tag.name then headStart tag
    else match tag.name with
      | "caption" | "colgroup" | "tbody" | "tfoot" | "thead" => switch .inTable
      | "col" => switch .inColumnGroup
      | "tr" => switch .inTableBody
      | "td" | "th" => switch .inRow
      | _ => switch .inBody
  | .endTag "template" => templateEnd; return .done
  | .endTag _ => return .done
  | .doctype _ => return .done
  | .endOfFile => templateEof token

end Potfile.Markup.Build
