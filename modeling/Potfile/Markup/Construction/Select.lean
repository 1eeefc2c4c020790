import Potfile.Markup.Construction.Body

/-! # Lists of choices

* `inSelect`, `inSelectInTable`: the rules for tokens in a list of choices. Most tags mean
  nothing in it.
-/

namespace Potfile.Markup.Build

/-- The second open element has the given name. -/
def secondIs (name : String) : Build Bool := do
  let b ← get
  return ((b.stack.drop 1).head?).any (isNamed b name)

/-- Closes the list of choices, if it is in scope. -/
def closeSelect : Build Bool := do
  if ← inScopeNamed selectScope "select" then
    popUntilNamed "select"
    return true
  else return false

def inSelect (token : Token) : Build Action := do
  match token with
  | .char c =>
    if c ≠ '\x00' then insertChar c
    return .done
  | .comment text => insertComment text; return .done
  | .startTag tag =>
    match tag.name with
    | "html" => htmlStart tag; return .done
    | "option" =>
      if ← currentIs "option" then pop
      let _ ← insertElement tag
      return .done
    | "optgroup" =>
      if ← currentIs "option" then pop
      if ← currentIs "optgroup" then pop
      let _ ← insertElement tag
      return .done
    | "select" =>
      if ← closeSelect then resetMode
      return .done
    | "input" | "keygen" | "textarea" =>
      if ← closeSelect then return .again (fittingMode (← get)) token else return .done
    | "script" | "template" => headStart tag
    | _ => return .done
  | .endTag name =>
    match name with
    | "optgroup" =>
      if (← currentIs "option") && (← secondIs "optgroup") then pop
      if ← currentIs "optgroup" then pop
      return .done
    | "option" =>
      if ← currentIs "option" then pop
      return .done
    | "select" =>
      if ← closeSelect then resetMode
      return .done
    | "template" => templateEnd; return .done
    | _ => return .done
  | .endOfFile => inBody token
  | .doctype _ => return .done

/-- Parts of a table, which close a list of choices inside it. -/
def tableParts : List String :=
  ["caption", "table", "tbody", "tfoot", "thead", "tr", "td", "th"]

def inSelectInTable (token : Token) : Build Action := do
  let leave : Build Action := do
    popUntilNamed "select"
    return .again (fittingMode (← get)) token
  match token with
  | .startTag tag => if tableParts.contains tag.name then leave else inSelect token
  | .endTag name =>
    if tableParts.contains name then
      if ← inScopeNamed tableScope name then leave else return .done
    else inSelect token
  | _ => inSelect token

end Potfile.Markup.Build
