import Potfile.Markup.Construction.Outline
import Potfile.Markup.Construction.Table
import Potfile.Markup.Construction.Select

/-! # Building documents

* `Document.ofSource`: the document that a source text describes.
* `Document.ofFragment`: the document around a source text that is the content of a body.
-/

namespace Potfile.Markup

namespace Build

/-- Raw text and the end tag that closes it. -/
def inRawText (token : Token) : Build Action := do
  match token with
  | .char c => insertChar c; return .done
  | .endOfFile =>
    pop
    return .again (← get).originalMode token
  | _ =>
    pop
    modify fun b => { b with mode := b.originalMode }
    return .done

def step : Mode → Token → Build Action
  | .initial => initial
  | .beforeHtml => beforeHtml
  | .beforeHead => beforeHead
  | .inHead => inHead
  | .afterHead => afterHead
  | .inBody => inBody
  | .text => inRawText
  | .inTable => inTable
  | .inTableText => inTableText
  | .inCaption => inCaption
  | .inColumnGroup => inColumnGroup
  | .inTableBody => inTableBody
  | .inRow => inRow
  | .inCell => inCell
  | .inSelect => inSelect
  | .inSelectInTable => inSelectInTable
  | .inTemplate => inTemplate
  | .afterBody => afterBody
  | .inFrameset => inFrameset
  | .afterFrameset => afterFrameset
  | .afterAfterBody => afterAfterBody
  | .afterAfterFrameset => afterAfterFrameset

def foreign (token : Token) : Build Action := do
  match token with
  | .char c =>
    if c = '\x00' then insertChar replacementChar
    else
      if !isBlankChar c then forbidFrameset
      insertChar c
    return .done
  | .comment text => insertComment text; return .done
  | .startTag tag =>
    if breaksOut tag then
      leaveForeign
      step (← get).mode token
    else
      foreignStart tag
      return .done
  | .endTag name =>
    if name == "br" || name == "p" then
      leaveForeign
      step (← get).mode token
    else if ← foreignEnd? name then return .done
    else step (← get).mode token
  | .doctype _ | .endOfFile => return .done

/-- Looks at a token until nothing remains to be done for it. Each time an element is closed or
    the mode changes towards that of the token, so that the open elements bound the rounds. -/
def process : (rounds : Nat) → Token → Build Action
  | 0, _ => return .done
  | rounds + 1, token => do
    let b ← get
    let action ← if isForeign b token then foreign token else step b.mode token
    match action with
    | .again mode token =>
      setMode mode
      process rounds token
    | action => return action

/-- Takes a token. A line feed right behind the start tag of an element with its own lines does
    not count, and a document type counts only in front of everything. -/
def take (token : Token) : Build Action := do
  let b ← get
  modify fun b => { b with skipsLine := false }
  match token with
  | .char '\n' => if b.skipsLine then return .done else process (8 * b.stack.length + 64) token
  | .doctype _ => if b.mode = .initial then initial token else return .done
  | _ => process (8 * b.stack.length + 64) token

def takeAll : List Token → Build Action
  | [] => return .done
  | [token] => take token
  | token :: rest => do
    let _ ← take token
    takeAll rest

/-- Takes a whole source text. Every round takes at least one character of it. -/
def takeSource : (rounds : Nat) → List Char → Build Unit
  | 0, _ => return
  | rounds + 1, cs => do
    let isInForeign := currentVocabulary (← get) != .html
    let (tokens, rest) := Token.next isInForeign cs
    match ← takeAll tokens with
    | .raw kind name =>
      let (text, rest) := rawText kind name rest
      let _ ← takeAll (text.map .char)
      takeSource rounds rest
    | _ => if cs.isEmpty then return else takeSource rounds rest

/-- Takes a whole source text, and its end. -/
def takeText (source : String) : Build Unit := do
  let cs := normalize source
  takeSource (cs.length + 2) cs

/-- The state in front of a source text that is the content of a body. -/
def fragmentStart : Builder :=
  let setup : Build Unit := do
    let context ← create (.element ⟨.html, "body"⟩ [])
    createRoot []
    modify fun b => { b with context := some context }
    resetMode
  (setup.run {}).2

end Build

namespace Document

/-- The document that a source text describes. -/
def ofSource (source : String) : Document := ((Build.takeText source).run {}).2.document

/-- The document around a source text that is the content of a body. -/
def ofFragment (source : String) : Document :=
  ((Build.takeText source).run Build.fragmentStart).2.document

end Document

end Potfile.Markup
