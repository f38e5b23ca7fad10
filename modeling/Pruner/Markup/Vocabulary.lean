/-!
# The vocabulary of documents

Groups of tag names that are treated alike when the elements of a document are worked out.
-/

namespace Pruner.Markup.Vocabulary

/-! ### Groups of elements -/

def headings : List String := ["h1", "h2", "h3", "h4", "h5", "h6"]

def tableSections : List String := ["tbody", "tfoot", "thead"]

def tableCells : List String := ["td", "th"]

/-- The parts of a table other than its cells and rows. -/
def tableOuterParts : List String := ["caption", "col", "colgroup"] ++ tableSections

/-- The parts of a table, which mean nothing outside one. -/
def tableParts : List String := tableOuterParts ++ "tr" :: tableCells

/-- Elements that hold nothing but parts of a table: anything else goes in front of the table. -/
def tableHosts : List String := "table" :: "tr" :: tableSections

/-- Elements that bound what an end tag of another name, or a moved element, can reach. -/
def special : List String :=
  tableParts ++ headings ++ [
    "address", "applet", "area", "article", "aside", "base", "basefont", "bgsound", "blockquote",
    "body", "br", "button", "center", "command", "dd", "details", "dir", "div", "dl", "dt",
    "embed", "fieldset", "figure", "footer", "form", "frame", "frameset", "head", "header", "hr",
    "html", "iframe", "image", "img", "input", "isindex", "li", "link", "listing", "marquee",
    "menu", "meta", "nav", "noembed", "noframes", "noscript", "object", "ol", "p", "param",
    "plaintext", "pre", "script", "section", "select", "style", "table", "textarea", "title",
    "ul", "wbr", "xmp"]

/-- Elements that bound the scope of what is inside them. -/
def scopes : List String :=
  ["applet", "caption", "html", "marquee", "object", "table", "td", "th"]

/-- Elements that end with the element around them. -/
def impliedEnds : List String :=
  ["dd", "dt", "li", "optgroup", "option", "p", "rp", "rt"]

/-- Elements whose content does not begin with a line end. -/
def preformatted : List String := ["listing", "pre", "textarea"]

/-! ### Graphics and formulas -/

/-- Elements of vector graphics with ordinary markup inside. -/
def svgEmbeddings : List String := ["desc", "foreignObject", "title"]

/-- Elements of formulas with ordinary text inside. -/
def mathEmbeddings : List String := ["mi", "mn", "mo", "ms", "mtext"]

/-- Elements of formulas that stay part of them inside text. -/
def mathGlyphs : List String := ["malignmark", "mglyph"]

/-- The encodings under which an annotation of a formula holds ordinary markup. -/
def markupEncodings : List String := ["application/xhtml+xml", "text/html"]

/-- Elements that are never part of graphics or formulas: they end them. -/
def breakouts : List String :=
  headings ++ [
    "b", "big", "blockquote", "body", "br", "center", "code", "dd", "div", "dl", "dt", "em",
    "embed", "head", "hr", "i", "img", "li", "listing", "menu", "meta", "nobr", "ol", "p", "pre",
    "ruby", "s", "small", "span", "strike", "strong", "sub", "sup", "table", "tt", "u", "ul",
    "var"]

/-- A `font` tag with one of these attributes ends graphics and formulas too. -/
def fontAttributes : List String := ["color", "face", "size"]

/-! ### Tags around the body -/

/-- End tags that open what is implied before the body. -/
def bodyImpliers : List String := ["body", "br", "html"]

/-- Elements that go into the head even after it has been left. -/
def lateHeadTags : List String :=
  ["base", "basefont", "bgsound", "link", "meta", "noframes", "script", "style", "title"]

/-- Elements that can stand inside a `noscript` of the head. -/
def noscriptTags : List String :=
  ["basefont", "bgsound", "link", "meta", "noframes", "style"]

/-- Tags that end a selection inside a table. -/
def selectEnders : List String :=
  ["caption", "table", "tbody", "td", "tfoot", "th", "thead", "tr"]

/-! ### Start tags in the body -/

/-- How a start tag is taken in the body. -/
inductive Opening where
  | root
  | metadata
  | body
  | frameset
  | block
  | heading
  | preformatted
  | form
  | item
  | plaintext
  | anchor
  | formatting
  | nobr
  | button
  | embedded
  | example
  | table
  | void
  | input
  | parameter
  | rule
  | image
  | index
  | textarea
  | inlineFrame
  | raw
  | select
  | ruby
  | option
  | math
  | svg
  | misplaced
  | other
  deriving DecidableEq, Repr

def openings : List (Opening × List String) := [
  (.root, ["html"]),
  (.metadata, ["base", "basefont", "bgsound", "command", "link", "meta", "script", "style",
    "title"]),
  (.body, ["body"]),
  (.frameset, ["frameset"]),
  (.block, ["address", "article", "aside", "blockquote", "center", "details", "dir", "div", "dl",
    "fieldset", "figcaption", "figure", "footer", "header", "hgroup", "main", "menu", "nav", "ol",
    "p", "section", "summary", "ul"]),
  (.heading, headings),
  (.preformatted, ["listing", "pre"]),
  (.form, ["form"]),
  (.item, ["dd", "dt", "li"]),
  (.plaintext, ["plaintext"]),
  (.anchor, ["a"]),
  (.formatting, ["b", "big", "code", "em", "font", "i", "s", "small", "strike", "strong", "tt",
    "u"]),
  (.nobr, ["nobr"]),
  (.button, ["button"]),
  (.embedded, ["applet", "marquee", "object"]),
  (.example, ["xmp"]),
  (.table, ["table"]),
  (.void, ["area", "br", "embed", "img", "keygen", "wbr"]),
  (.input, ["input"]),
  (.parameter, ["param", "source", "track"]),
  (.rule, ["hr"]),
  (.image, ["image"]),
  (.index, ["isindex"]),
  (.textarea, ["textarea"]),
  (.inlineFrame, ["iframe"]),
  (.raw, ["noembed", "noframes"]),
  (.select, ["select"]),
  (.ruby, ["rp", "rt"]),
  (.option, ["optgroup", "option"]),
  (.math, ["math"]),
  (.svg, ["svg"]),
  (.misplaced, tableParts ++ ["frame", "head"])]

def Opening.of (name : String) : Opening :=
  ((openings.find? (·.2.contains name)).map (·.1)).getD .other

/-! ### End tags in the body -/

/-- How an end tag is taken in the body. -/
inductive Closing where
  | body
  | root
  | block
  | form
  | paragraph
  | item
  | heading
  | formatting
  | embedded
  | lineBreak
  | other
  deriving DecidableEq, Repr

def closings : List (Closing × List String) := [
  (.body, ["body"]),
  (.root, ["html"]),
  (.block, ["address", "article", "aside", "blockquote", "button", "center", "details", "dialog",
    "dir", "div", "dl", "fieldset", "figcaption", "figure", "footer", "header", "hgroup",
    "listing", "main", "menu", "nav", "ol", "pre", "section", "summary", "ul"]),
  (.form, ["form"]),
  (.paragraph, ["p"]),
  (.item, ["dd", "dt", "li"]),
  (.heading, headings),
  (.formatting, ["a", "b", "big", "code", "em", "font", "i", "nobr", "s", "small", "strike",
    "strong", "tt", "u"]),
  (.embedded, ["applet", "marquee", "object"]),
  (.lineBreak, ["br"])]

def Closing.of (name : String) : Closing :=
  ((closings.find? (·.2.contains name)).map (·.1)).getD .other

end Pruner.Markup.Vocabulary
