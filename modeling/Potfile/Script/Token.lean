import Potfile.Decimal.Binary64

/-! # Tokens of scripts

* `Token`: the parts into which a script is cut. Regular expressions and templates are not among
  them, because only the grammar tells where they begin.
* `isReserved`: the words that are never names.
-/

namespace Potfile.Script

inductive Token where
  /-- A name or a keyword. -/
  | word (text : String)
  | privateName (text : String)
  | number (value : Binary64)
  | bigint (value : Nat)
  /-- A string, with `none` for one that is no text. -/
  | string (text : Option String) (isEscaped : Bool)
  | mark (text : String)
  | endOfFile
  /-- What cannot be a part of any script. -/
  | invalid
deriving DecidableEq, Repr, Inhabited

namespace Token

def isWord : Token → Bool
  | word _ => true
  | _ => false

/-- The directive that asks for the strict rules. It must be spelled out. -/
def isStrictDirective : Token → Bool
  | string (some text) false => text == "use strict"
  | _ => false

end Token

/-- The words that are never names. -/
def reserved : List String :=
  ["null", "true", "false", "break", "case", "catch", "continue", "debugger", "default", "do",
   "export", "else", "finally", "for", "function", "if", "return", "switch", "throw", "try",
   "var", "const", "while", "with", "new", "this", "super", "class", "extends", "import", "in",
   "instanceof", "typeof", "void", "delete", "enum"]

/-- The words that are no names under the strict rules. -/
def reservedStrictly : List String :=
  ["let", "yield", "implements", "package", "protected", "interface", "private", "public"]

/-- All marks, those in front that begin with others. -/
def marks : List String :=
  [">>>=", "...", "===", "!==", "**=", "<<=", ">>=", ">>>", "&&=", "||=", "??=", "=>", "==", "!=",
   "<=", ">=", "++", "--", "+=", "-=", "*=", "/=", "%=", "&=", "|=", "^=", "&&", "||", "??", "?.",
   "<<", ">>", "**", "\x7b", "\x7d", "(", ")", "[", "]", ";", ",", "<", ">", "+", "-", "*", "/",
   "%", "&", "|", "^", "!", "~", "?", ":", "=", ".", "@", "\x60"]

end Potfile.Script
