import Potfile.Markup.Construction.State

/-! # Drawings and formulas

The elements of drawings and formulas have vocabularies of their own. Their names and the names
of their attributes keep capital letters that the source may lack.

* `isForeign`: whether a token belongs to such a vocabulary.
* `foreignStart`, `foreignEnd?`: its start and end tags.
-/

namespace Potfile.Markup.Build

/-! ## Names with capital letters -/

/-- Names of elements in drawings that have capital letters. -/
def drawingTags : List String :=
  ["altGlyph", "altGlyphDef", "altGlyphItem", "animateColor", "animateMotion",
   "animateTransform", "clipPath", "feBlend", "feColorMatrix", "feComponentTransfer",
   "feComposite", "feConvolveMatrix", "feDiffuseLighting", "feDisplacementMap",
   "feDistantLight", "feDropShadow", "feFlood", "feFuncA", "feFuncB", "feFuncG", "feFuncR",
   "feGaussianBlur", "feImage", "feMerge", "feMergeNode", "feMorphology", "feOffset",
   "fePointLight", "feSpecularLighting", "feSpotLight", "feTile", "feTurbulence",
   "foreignObject", "glyphRef", "linearGradient", "radialGradient", "textPath"]

/-- Names of attributes in drawings that have capital letters. -/
def drawingAttributes : List String :=
  ["attributeName", "attributeType", "baseFrequency", "baseProfile", "calcMode",
   "clipPathUnits", "diffuseConstant", "edgeMode", "filterUnits", "glyphRef",
   "gradientTransform", "gradientUnits", "kernelMatrix", "kernelUnitLength", "keyPoints",
   "keySplines", "keyTimes", "lengthAdjust", "limitingConeAngle", "markerHeight", "markerUnits",
   "markerWidth", "maskContentUnits", "maskUnits", "numOctaves", "pathLength",
   "patternContentUnits", "patternTransform", "patternUnits", "pointsAtX", "pointsAtY",
   "pointsAtZ", "preserveAlpha", "preserveAspectRatio", "primitiveUnits", "refX", "refY",
   "repeatCount", "repeatDur", "requiredExtensions", "requiredFeatures", "specularConstant",
   "specularExponent", "spreadMethod", "startOffset", "stdDeviation", "stitchTiles",
   "surfaceScale", "systemLanguage", "tableValues", "targetX", "targetY", "textLength",
   "viewBox", "viewTarget", "xChannelSelector", "yChannelSelector", "zoomAndPan"]

/-- The one of some names that differs from the given one in letter case only. -/
def capitalize (names : List String) (name : String) : String :=
  (names.find? fun n => n.toLower == name).getD name

/-- The attributes of an element, with the capital letters that their names have. -/
def adjustAttributes (v : Vocabulary) (attributes : List Attribute) : List Attribute :=
  match v with
  | .html => attributes
  | .svg => attributes.map fun a => { a with name := capitalize drawingAttributes a.name }
  | .math => attributes.map fun a => { a with name := capitalize ["definitionURL"] a.name }

/-! ## Recognition -/

/-- The element whose vocabulary counts: the current one, or that around the whole source. -/
def adjustedCurrent? (b : Builder) : Option NodeId :=
  match b.stack with
  | [] => none
  | [only] => some (b.context.getD only)
  | id :: _ => some id

/-- The vocabulary that a section of plain characters or a start tag belongs to. -/
def currentVocabulary (b : Builder) : Vocabulary :=
  ((adjustedCurrent? b).map fun id => (nameOf b id).vocabulary).getD .html

/-- The token belongs to a drawing or a formula. -/
def isForeign (b : Builder) (token : Token) : Bool :=
  match adjustedCurrent? b with
  | none => false
  | some id =>
    let n := nameOf b id
    if n.vocabulary == .html then false
    else match token with
      | .endOfFile => false
      | .char _ => !(isFormulaText n || isDrawingText n)
      | .startTag tag =>
        if isFormulaText n && !(["mglyph", "malignmark"].contains tag.name) then false
        else if isDrawingText n then false
        else !(n == ⟨.math, "annotation-xml"⟩ && tag.name == "svg")
      | _ => true

/-! ## Tags -/

/-- Start tags that end a drawing or a formula. -/
def breakouts : List String :=
  ["b", "big", "blockquote", "body", "br", "center", "code", "dd", "div", "dl", "dt", "em",
   "embed", "h1", "h2", "h3", "h4", "h5", "h6", "head", "hr", "i", "img", "li", "listing",
   "menu", "meta", "nobr", "ol", "p", "pre", "ruby", "s", "small", "span", "strong", "strike",
   "sub", "sup", "table", "tt", "u", "ul", "var"]

/-- The start tag ends a drawing or a formula. -/
def breaksOut (tag : Tag) : Bool :=
  breakouts.contains tag.name ||
    (tag.name == "font" && ["color", "face", "size"].any fun a => (tag.get? a).isSome)

/-- Closes elements until plain ones may stand in the current one. -/
def leaveForeign : Build Unit :=
  modify fun b => { b with stack := b.stack.dropWhile fun id =>
    let n := nameOf b id
    !(n.vocabulary == .html || isFormulaText n || isDrawingText n) }

/-- Inserts an element of a vocabulary; one that closes itself is not opened. -/
def insertForeign (v : Vocabulary) (tag : Tag) : Build Unit := do
  let attributes := adjustAttributes v tag.attributes
  if tag.isSelfClosing then
    let _ ← insertLoose ⟨v, tag.name⟩ attributes
  else
    let _ ← insertOpen ⟨v, tag.name⟩ attributes

/-- A start tag inside a drawing or a formula. -/
def foreignStart (tag : Tag) : Build Unit := do
  let v := currentVocabulary (← get)
  let name := if v == .svg then capitalize drawingTags tag.name else tag.name
  insertForeign v { tag with name }

/-- An end tag inside a drawing or a formula: closes the element of that name, in whatever
    letter case, if no plain element is in between. Gives `false` if it belongs to a plain
    element. -/
def foreignEnd? (name : String) : Build Bool := do
  let b ← get
  let rec go : List NodeId → Option (List NodeId)
    | [] => some b.stack
    | [_] => some b.stack
    | id :: rest =>
      let n := nameOf b id
      if n.vocabulary == .html && id != b.stack.head?.getD Document.root then none
      else if n.text.toLower == name then some rest
      else go rest
  match go b.stack with
  | some stack =>
    modify fun b => { b with stack }
    return true
  | none => return false

end Potfile.Markup.Build
