import Gateway.Html.Tree.InHead

/-! Mathematics and drawings within a page. Their elements keep the case of their names, may close
    themselves, and end where an element of pages starts. Some of them hold elements of pages again. -/

namespace Gateway.Html.Tree
open Builder

/-! ### Names -/

/-- The elements of drawings whose names are not in lower case. -/
def svgTags : List String := [
  "altGlyph", "altGlyphDef", "altGlyphItem", "animateColor", "animateMotion", "animateTransform",
  "clipPath", "feBlend", "feColorMatrix", "feComponentTransfer", "feComposite", "feConvolveMatrix",
  "feDiffuseLighting", "feDisplacementMap", "feDistantLight", "feDropShadow", "feFlood", "feFuncA",
  "feFuncB", "feFuncG", "feFuncR", "feGaussianBlur", "feImage", "feMerge", "feMergeNode", "feMorphology",
  "feOffset", "fePointLight", "feSpecularLighting", "feSpotLight", "feTile", "feTurbulence",
  "foreignObject", "glyphRef", "linearGradient", "radialGradient", "textPath"]

/-- The attributes of drawings whose names are not in lower case. -/
def svgAttributes : List String := [
  "attributeName", "attributeType", "baseFrequency", "baseProfile", "calcMode", "clipPathUnits",
  "diffuseConstant", "edgeMode", "filterUnits", "glyphRef", "gradientTransform", "gradientUnits",
  "kernelMatrix", "kernelUnitLength", "keyPoints", "keySplines", "keyTimes", "lengthAdjust",
  "limitingConeAngle", "markerHeight", "markerUnits", "markerWidth", "maskContentUnits", "maskUnits",
  "numOctaves", "pathLength", "patternContentUnits", "patternTransform", "patternUnits", "pointsAtX",
  "pointsAtY", "pointsAtZ", "preserveAlpha", "preserveAspectRatio", "primitiveUnits", "refX", "refY",
  "repeatCount", "repeatDur", "requiredExtensions", "requiredFeatures", "specularConstant",
  "specularExponent", "spreadMethod", "startOffset", "stdDeviation", "stitchTiles", "surfaceScale",
  "systemLanguage", "tableValues", "targetX", "targetY", "textLength", "viewBox", "viewTarget",
  "xChannelSelector", "yChannelSelector", "zoomAndPan"]

/-- The name of the table that differs from `name` in case only. -/
def restoreCase (table : List String) (name : String) : String :=
  (table.find? fun t => t.toLower == name).getD name

/-- Attributes that belong to vocabularies of their own. -/
def foreignAttribute? (name : String) : Option (AttributeSpace × String) :=
  match name with
  | "xlink:actuate" => some (.xlink, "actuate")
  | "xlink:arcrole" => some (.xlink, "arcrole")
  | "xlink:href" => some (.xlink, "href")
  | "xlink:role" => some (.xlink, "role")
  | "xlink:show" => some (.xlink, "show")
  | "xlink:title" => some (.xlink, "title")
  | "xlink:type" => some (.xlink, "type")
  | "xml:base" => some (.xml, "base")
  | "xml:lang" => some (.xml, "lang")
  | "xml:space" => some (.xml, "space")
  | "xmlns" => some (.xmlns, "xmlns")
  | "xmlns:xlink" => some (.xmlns, "xlink")
  | _ => none

def foreignAttribute (space : Space) (a : Attribute) : Attribute :=
  let name := match space with
    | .svg => restoreCase svgAttributes a.name
    | .mathml => restoreCase ["definitionURL"] a.name
    | .html => a.name
  match foreignAttribute? name with
  | some (space, name) => { a with space, name }
  | none => { a with name }

/-! ### Which rules apply -/

/-- An annotation that says it holds elements of pages. -/
def holdsAnnotation (attributes : List Attribute) : Bool :=
  attributes.any fun a => a.space == .plain && a.name == "encoding" &&
    ["text/html", "application/xhtml+xml"].contains a.value.toLower

namespace Builder

/-- Texts and start tags within some elements are of the page again. -/
def holdsPage (b : Builder) (n : Nat) (name : ElementName) : Token → Bool
  | .text _ | .null =>
    holdsMathText name || holdsHtml name ||
      (name == ⟨.mathml, "annotation-xml"⟩ && holdsAnnotation (b.arena.attributes n))
  | .startTag tag =>
    (holdsMathText name && tag.name != "mglyph" && tag.name != "malignmark") || holdsHtml name ||
      (name == ⟨.mathml, "annotation-xml"⟩ && (tag.name == "svg" || holdsAnnotation (b.arena.attributes n)))
  | _ => false

/-- The token is taken by the rules for mathematics and drawings. -/
def takesForeign (b : Builder) (token : Token) : Bool :=
  match token, b.current? with
  | .endOfFile, _ => false
  | _, none => false
  | token, some n =>
    match b.arena.name? n with
    | some name => name.space != .html && !b.holdsPage n name token
    | none => false

/-- The current element is not one of pages, so that sections of text can be marked as such. -/
def inForeign (b : Builder) : Bool :=
  (b.current?.bind b.arena.name?).any fun name => name.space != .html

end Builder

/-! ### Rules -/

namespace Build

/-- Inserts an element of `space` and leaves it at once if its tag closes itself. -/
def insertForeign (space : Space) (tag : Tag) : Build Unit := do
  let name := if space = .svg then restoreCase svgTags tag.name else tag.name
  let _ ← insertNamed ⟨space, name⟩ (tag.attributes.map (foreignAttribute space))
  if tag.selfClosing then pop

/-- Starts mathematics or a drawing. -/
def enterForeign (space : Space) (tag : Tag) : Build Unit := do
  let _ ← insertNamed ⟨space, tag.name⟩ (tag.attributes.map (foreignAttribute space))
  if tag.selfClosing then pop

/-- The start tags that end mathematics and drawings. -/
def breaksOut (tag : Tag) : Bool :=
  ["b", "big", "blockquote", "body", "br", "center", "code", "dd", "div", "dl", "dt", "em", "embed", "h1",
    "h2", "h3", "h4", "h5", "h6", "head", "hr", "i", "img", "li", "listing", "menu", "meta", "nobr", "ol",
    "p", "pre", "ruby", "s", "small", "span", "strong", "strike", "sub", "sup", "table", "tt", "u", "ul",
    "var"].contains tag.name ||
  (tag.name == "font" && ["color", "face", "size"].any fun a => (tag.attribute? a).isSome)

/-- Elements that hold elements of pages, and those of pages. -/
def ofPage : Names := fun n => n.space == .html || holdsMathText n || holdsHtml n

/-- The stack without what an end tag in mathematics or a drawing closes: the innermost element of its
    name, if it is reached before an element of pages is; otherwise the page's rules apply. -/
def closedForeign? (b : Builder) (tag : String) (first : Bool) : List Nat → Option (List Nat)
  | [] => none
  | n :: outer =>
    match b.arena.name? n with
    | some name =>
      if outer.isEmpty then some b.stack
      else if ¬ first ∧ name.space = .html then none
      else if name.tag.toLower = tag then some outer
      else closedForeign? b tag false outer
    | none => none

end Build
end Gateway.Html.Tree
