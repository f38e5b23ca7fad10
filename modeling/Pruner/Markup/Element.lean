import Pruner.Markup.Name
import Pruner.Text.Lower

/-!
# Elements

An element of a parsed document as the removal sees it: a tag in lower case and its attributes in
source order. Elements inside vector graphics and formulas carry their namespace in the tag; names
of theirs get their capitals back, and some of their attributes their namespace.
-/

namespace Pruner.Markup

structure Attribute where
  name : String
  value : String
  deriving DecidableEq, Repr

structure Element where
  tag : String
  attributes : List Attribute
  deriving DecidableEq, Repr

namespace Attribute

/-- Keeps the first attribute of every name. -/
def firsts : List Attribute → List Attribute
  | [] => []
  | a :: as => a :: (firsts as).filter (·.name != a.name)

/-- Of the new attributes, those whose names are not taken yet. -/
def missing (old new : List Attribute) : List Attribute :=
  new.filter fun a => old.all (·.name != a.name)

/-- Whether two lists hold the same attributes, in whatever order. -/
def same (left right : List Attribute) : Bool :=
  left.length == right.length && left.all right.contains

end Attribute

/-- The vocabulary that an element belongs to. -/
inductive Space where
  | html
  | svg
  | math
  deriving DecidableEq, Repr

namespace Space

def mark : Space → String
  | html => ""
  | svg => "\x7bhttp://www.w3.org/2000/svg\x7d"
  | math => "\x7bhttp://www.w3.org/1998/Math/MathML\x7d"

/-- The attributes of vector graphics that are written with capitals. -/
def svgCapitals : List String := [
  "attributeName", "attributeType", "baseFrequency", "baseProfile", "calcMode", "clipPathUnits",
  "contentScriptType", "contentStyleType", "diffuseConstant", "edgeMode",
  "externalResourcesRequired", "filterRes", "filterUnits", "glyphRef", "gradientTransform",
  "gradientUnits", "kernelMatrix", "kernelUnitLength", "keyPoints", "keySplines", "keyTimes",
  "lengthAdjust", "limitingConeAngle", "markerHeight", "markerUnits", "markerWidth",
  "maskContentUnits", "maskUnits", "numOctaves", "pathLength", "patternContentUnits",
  "patternTransform", "patternUnits", "pointsAtX", "pointsAtY", "pointsAtZ", "preserveAlpha",
  "preserveAspectRatio", "primitiveUnits", "refX", "refY", "repeatCount", "repeatDur",
  "requiredExtensions", "requiredFeatures", "specularConstant", "specularExponent",
  "spreadMethod", "startOffset", "stdDeviation", "stitchTiles", "surfaceScale",
  "systemLanguage", "tableValues", "targetX", "targetY", "textLength", "viewBox", "viewTarget",
  "xChannelSelector", "yChannelSelector", "zoomAndPan"]

/-- The elements of vector graphics that are written with capitals. -/
def svgElements : List String := [
  "altGlyph", "altGlyphDef", "altGlyphItem", "animateColor", "animateMotion", "animateTransform",
  "clipPath", "feBlend", "feColorMatrix", "feComponentTransfer", "feComposite",
  "feConvolveMatrix", "feDiffuseLighting", "feDisplacementMap", "feDistantLight", "feFlood",
  "feFuncA", "feFuncB", "feFuncG", "feFuncR", "feGaussianBlur", "feImage", "feMerge",
  "feMergeNode", "feMorphology", "feOffset", "fePointLight", "feSpecularLighting",
  "feSpotLight", "feTile", "feTurbulence", "foreignObject", "glyphRef", "linearGradient",
  "radialGradient", "textPath"]

def mathCapitals : List String := ["definitionURL"]

def capitals : Space → List String
  | html => []
  | svg => svgCapitals
  | math => mathCapitals

/-- Attributes with a namespace of their own, by name. -/
def qualified : List (String × String) := [
  ("xlink:actuate", "\x7bhttp://www.w3.org/1999/xlink\x7dactuate"),
  ("xlink:arcrole", "\x7bhttp://www.w3.org/1999/xlink\x7darcrole"),
  ("xlink:href", "\x7bhttp://www.w3.org/1999/xlink\x7dhref"),
  ("xlink:role", "\x7bhttp://www.w3.org/1999/xlink\x7drole"),
  ("xlink:show", "\x7bhttp://www.w3.org/1999/xlink\x7dshow"),
  ("xlink:title", "\x7bhttp://www.w3.org/1999/xlink\x7dtitle"),
  ("xlink:type", "\x7bhttp://www.w3.org/1999/xlink\x7dtype"),
  ("xml:base", "\x7bhttp://www.w3.org/XML/1998/namespace\x7dbase"),
  ("xml:lang", "\x7bhttp://www.w3.org/XML/1998/namespace\x7dlang"),
  ("xml:space", "\x7bhttp://www.w3.org/XML/1998/namespace\x7dspace"),
  ("xmlns", "\x7bhttp://www.w3.org/2000/xmlns/\x7dxmlns"),
  ("xmlns:xlink", "\x7bhttp://www.w3.org/2000/xmlns/\x7dxlink")]

/-- A name with its capitals, if it is the lower case of a listed one. -/
def capitalized? (spellings : List String) (name : String) : Option String :=
  spellings.find? fun spelling => Text.lower spelling == name

/-- The name that an attribute has in the tree. -/
def attributeName (space : Space) (name : String) : String :=
  match space with
  | html => treeName name
  | _ =>
    match capitalized? space.capitals name with
    | some spelling => spelling
    | none => (qualified.lookup name).getD (treeName name)

/-- The attributes of a tag as they stand in the tree. -/
def attributes (space : Space) (written : List Attribute) : List Attribute :=
  written.map fun a => ⟨space.attributeName a.name, a.value⟩

/-- The name of an element inside graphics or formulas. -/
def elementName (space : Space) (name : String) : String :=
  match space with
  | svg => (capitalized? svgElements name).getD name
  | _ => name

/-- The tag of an element in the tree. -/
def tag (space : Space) (name : String) : String :=
  Text.lower (space.mark ++ treeName name)

end Space

end Pruner.Markup
