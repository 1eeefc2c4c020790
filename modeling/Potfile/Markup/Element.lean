import Potfile.Delimiter
import Potfile.Registry
import Potfile.Markup.Token

/-! # Marked elements

An element tells by its attributes what is to be translated: its content, or the values of
attributes.

* `Marker`: the ways of marking.
* `Element.markers`: the markers of an element.
* `Element.occurrences`: the translatable strings of an element, one for each marker.
-/

namespace Potfile.Markup

/-- What the translatable strings of an element depend on. -/
structure Element where
  /-- The attributes, no name twice. -/
  attributes : List Attribute
  /-- The content, as markup. -/
  inner : String
deriving DecidableEq, Repr, Inhabited

/-- The ways in which an element marks a translatable string. -/
inductive Marker where
  /-- The content is a message, by the attribute `translate`. -/
  | translate
  /-- The content is a message, by the attribute `data-translate`. -/
  | dataTranslate
  /-- The value of some other attribute is an expression for this message. -/
  | filtered (text : String)
deriving DecidableEq, Repr, Inhabited

/-- The attribute that holds the plural of the message. -/
def Marker.pluralAttribute? : Marker → Option String
  | .translate => some "translate-plural"
  | .dataTranslate => some "data-translate-plural"
  | .filtered _ => none

namespace Element

def get? (e : Element) (name : String) : Option String :=
  (e.attributes.find? (·.name = name)).map (·.value)

/-- The marker that an attribute is by itself. Any attribute but `translate` may hold an
    expression. -/
def markerOf? (a : Attribute) : Option Marker :=
  if a.name = "translate" then some .translate
  else (Delimiters.none.first? a.value).map .filtered

/-- The markers of an element, in the order of its attributes; `data-translate` comes last. -/
def markers (e : Element) : List Marker :=
  e.attributes.filterMap markerOf?
    ++ (if (e.get? "data-translate").isSome then [.dataTranslate] else [])

/-- The translatable string that a marker points to. -/
def occurrence (e : Element) : Marker → Occurrence
  | .filtered text => { text }
  | marker => { text := e.inner, plural := marker.pluralAttribute?.bind e.get? }

def occurrences (e : Element) : List Occurrence := e.markers.map e.occurrence

end Element

end Potfile.Markup
