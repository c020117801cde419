import PluginRecovery.Html.Token

/-!
The elements that the structure of a page depends on, in groups: which end others, which bound a
search among the open ones, and which names of foreign markup keep capitals.
-/

set_option autoImplicit false
set_option relaxedAutoImplicit false

namespace PluginRecovery.Html

/-- Whether an element is one of the page's own vocabulary with one of the labels. -/
def Name.isOneOf (labels : List String) (name : Name) : Bool :=
  name.space == .html && labels.contains name.label

/-- Whether an element is the one of the page's own vocabulary with the label. -/
def Name.isNamed (label : String) (name : Name) : Bool :=
  name.space == .html && name.label == label

/-- Elements that hold text of formulas. -/
def Name.holdsFormulaText (name : Name) : Bool :=
  name.space == .mathMl && ["mi", "mo", "mn", "ms", "mtext"].contains name.label

/-- Elements of drawings that hold parts of a page. -/
def Name.holdsPagePart (name : Name) : Bool :=
  name.space == .svg && ["foreignObject", "desc", "title"].contains name.label

/-- Elements that only a page's own structure closes. -/
def specialLabels : List String := [
  "address", "applet", "area", "article", "aside", "base", "basefont", "bgsound", "blockquote",
  "body", "br", "button", "caption", "center", "col", "colgroup", "dd", "details", "dir", "div",
  "dl", "dt", "embed", "fieldset", "figcaption", "figure", "footer", "form", "frame", "frameset",
  "h1", "h2", "h3", "h4", "h5", "h6", "head", "header", "hgroup", "hr", "html", "iframe", "img",
  "input", "isindex", "li", "link", "listing", "main", "marquee", "menu", "meta", "nav", "noembed",
  "noframes", "noscript", "object", "ol", "p", "param", "plaintext", "pre", "script", "section",
  "select", "source", "style", "summary", "table", "tbody", "td", "template", "textarea", "tfoot",
  "th", "thead", "title", "tr", "track", "ul", "wbr", "xmp"]

/-- Elements beyond which no open element is in scope. -/
def Name.bounds (name : Name) : Bool :=
  name.isOneOf ["applet", "caption", "html", "table", "td", "th", "marquee", "object", "template"] ||
    name.holdsFormulaText || name.holdsPagePart

def Name.boundsItems (name : Name) : Bool :=
  name.bounds || name.isOneOf ["ol", "ul"]

def Name.boundsParagraphs (name : Name) : Bool :=
  name.bounds || name.isNamed "button"

def Name.boundsTables (name : Name) : Bool :=
  name.isOneOf ["html", "table", "template"]

/-- Bounds for choices: all but their options and groups of them. -/
def Name.boundsChoices (name : Name) : Bool :=
  !name.isOneOf ["optgroup", "option"]

/-- Elements that need no closing tag. -/
def impliedLabels : List String :=
  ["dd", "dt", "li", "option", "optgroup", "p", "rb", "rp", "rt", "rtc"]

/-- Elements that need no closing tag where a template ends. -/
def thoroughlyImpliedLabels : List String :=
  impliedLabels ++ ["caption", "colgroup", "tbody", "td", "tfoot", "th", "thead", "tr"]

def headingLabels : List String := ["h1", "h2", "h3", "h4", "h5", "h6"]

/-- Elements that belong to the head wherever they stand. -/
def headLabels : List String :=
  ["base", "basefont", "bgsound", "link", "meta", "noframes", "script", "style", "template", "title"]

/-- Elements that stand on their own and end a paragraph. -/
def blockLabels : List String := [
  "address", "article", "aside", "blockquote", "center", "details", "dialog", "dir", "div", "dl",
  "fieldset", "figcaption", "figure", "footer", "header", "hgroup", "main", "menu", "nav", "ol", "p",
  "section", "summary", "ul"]

/-- Elements that a closing tag ends together with what needs none in them. -/
def closableLabels : List String := [
  "address", "article", "aside", "blockquote", "button", "center", "details", "dialog", "dir", "div",
  "dl", "fieldset", "figcaption", "figure", "footer", "header", "hgroup", "listing", "main", "menu",
  "nav", "ol", "pre", "section", "summary", "ul"]

/-- Elements that give their form to what follows until they are closed, across others. -/
def formattingLabels : List String :=
  ["b", "big", "code", "em", "font", "i", "s", "small", "strike", "strong", "tt", "u"]

def tablePartLabels : List String :=
  ["caption", "col", "colgroup", "tbody", "td", "tfoot", "th", "thead", "tr"]

/-- Parts of tables in which no text can stand. -/
def tableFrameLabels : List String := ["table", "tbody", "tfoot", "thead", "tr"]

/-- Elements of pages that end foreign markup. -/
def breakoutLabels : List String := [
  "b", "big", "blockquote", "body", "br", "center", "code", "dd", "div", "dl", "dt", "em", "embed",
  "h1", "h2", "h3", "h4", "h5", "h6", "head", "hr", "i", "img", "li", "listing", "menu", "meta",
  "nobr", "ol", "p", "pre", "ruby", "s", "small", "span", "strong", "strike", "sub", "sup", "table",
  "tt", "u", "ul", "var"]

/-- Names of elements of drawings that have capitals. -/
def drawingLabels : List String := [
  "altGlyph", "altGlyphDef", "altGlyphItem", "animateColor", "animateMotion", "animateTransform",
  "clipPath", "feBlend", "feColorMatrix", "feComponentTransfer", "feComposite", "feConvolveMatrix",
  "feDiffuseLighting", "feDisplacementMap", "feDistantLight", "feDropShadow", "feFlood", "feFuncA",
  "feFuncB", "feFuncG", "feFuncR", "feGaussianBlur", "feImage", "feMerge", "feMergeNode",
  "feMorphology", "feOffset", "fePointLight", "feSpecularLighting", "feSpotLight", "feTile",
  "feTurbulence", "foreignObject", "glyphRef", "linearGradient", "radialGradient", "textPath"]

/-- Names of attributes of drawings that have capitals. -/
def drawingAttributes : List String := [
  "attributeName", "attributeType", "baseFrequency", "baseProfile", "calcMode", "clipPathUnits",
  "diffuseConstant", "edgeMode", "filterUnits", "glyphRef", "gradientTransform", "gradientUnits",
  "kernelMatrix", "kernelUnitLength", "keyPoints", "keySplines", "keyTimes", "lengthAdjust",
  "limitingConeAngle", "markerHeight", "markerUnits", "markerWidth", "maskContentUnits", "maskUnits",
  "numOctaves", "pathLength", "patternContentUnits", "patternTransform", "patternUnits",
  "pointsAtX", "pointsAtY", "pointsAtZ", "preserveAlpha", "preserveAspectRatio", "primitiveUnits",
  "refX", "refY", "repeatCount", "repeatDur", "requiredExtensions", "requiredFeatures",
  "specularConstant", "specularExponent", "spreadMethod", "startOffset", "stdDeviation",
  "stitchTiles", "surfaceScale", "systemLanguage", "tableValues", "targetX", "targetY", "textLength",
  "viewBox", "viewTarget", "xChannelSelector", "yChannelSelector", "zoomAndPan"]

/-- The spelling with capitals of a label in lower case, when the list has one. -/
def capitalized (spellings : List String) (label : String) : String :=
  (spellings.find? fun spelling => spelling.map Char.toLower == label).getD label

/-- An attribute of foreign markup: some belong to vocabularies of their own. -/
def foreignAttribute (a : Attribute) : Attribute :=
  let linked := ["actuate", "arcrole", "href", "role", "show", "title", "type"]
  if a.label == "xmlns" then { a with space := "xmlns" }
  else if a.label == "xmlns:xlink" then { a with space := "xmlns", label := "xlink" }
  else
    match linked.find? fun label => a.label == "xlink:" ++ label,
      ["lang", "space"].find? fun label => a.label == "xml:" ++ label with
    | some label, _ => { a with space := "xlink", label }
    | none, some label => { a with space := "xml", label }
    | none, none => a

/-- A tag as it stands in foreign markup. -/
def Tag.inSpace (tag : Tag) (space : Space) : Tag :=
  let named (a : Attribute) : Attribute :=
    match space with
    | .svg => { a with label := capitalized drawingAttributes a.label }
    | .mathMl => { a with label := capitalized ["definitionURL"] a.label }
    | .html => a
  { tag with attributes := tag.attributes.map fun a => foreignAttribute (named a) }

end PluginRecovery.Html
