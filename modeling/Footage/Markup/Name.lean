/-!
# Names in markup

Elements have names in one of three spaces, and attributes with values. The sets of names in this
file are those that the rules of tree construction refer to.
-/

namespace Footage.Markup

/-- The space of an element's name. -/
inductive Space where
  | html
  | svg
  | math
  deriving DecidableEq, Repr

/-- The name of an element. -/
structure Name where
  space : Space
  name : String
  deriving DecidableEq, Repr

/-- An attribute with its value. -/
structure Attribute where
  name : String
  value : String
  deriving DecidableEq, Repr

namespace Name

/-- Whether the name is a given name of the HTML space. -/
def is (n : Name) (name : String) : Bool :=
  n.space = .html && n.name == name

/-- Whether the name is one of some names of the HTML space. -/
def isIn (n : Name) (names : List String) : Bool :=
  n.space = .html && names.contains n.name

/-- Whether the element holds HTML text within a formula. -/
def isMathText (n : Name) : Bool :=
  n.space = .math && ["mi", "mo", "mn", "ms", "mtext"].contains n.name

/-- Whether the element holds HTML within a drawing. -/
def isDrawingText (n : Name) : Bool :=
  n.space = .svg && ["foreignObject", "desc", "title"].contains n.name

/-- The headings. -/
def headings : List String := ["h1", "h2", "h3", "h4", "h5", "h6"]

/-- The elements that format the text across the ends of blocks. -/
def formatting : List String :=
  ["a", "b", "big", "code", "em", "font", "i", "nobr", "s", "small", "strike", "strong", "tt", "u"]

/-- The elements whose end is implied by what follows them. -/
def implied : List String :=
  ["dd", "dt", "li", "option", "optgroup", "p", "rb", "rp", "rt", "rtc"]

/-- The elements whose end is implied by the end of a template. -/
def impliedByTemplate : List String :=
  implied ++ ["caption", "colgroup", "tbody", "td", "tfoot", "th", "thead", "tr"]

/-- The elements that the end tag of an ordinary element does not close. -/
def special : List String :=
  ["address", "applet", "area", "article", "aside", "base", "basefont", "bgsound", "blockquote",
    "body", "br", "button", "caption", "center", "col", "colgroup", "dd", "details", "dir", "div",
    "dl", "dt", "embed", "fieldset", "figcaption", "figure", "footer", "form", "frame", "frameset",
    "h1", "h2", "h3", "h4", "h5", "h6", "head", "header", "hgroup", "hr", "html", "iframe", "img",
    "input", "isindex", "li", "link", "listing", "main", "marquee", "menu", "meta", "nav",
    "noembed", "noframes", "noscript", "object", "ol", "p", "param", "plaintext", "pre", "script",
    "section", "select", "source", "style", "summary", "table", "tbody", "td", "template",
    "textarea", "tfoot", "th", "thead", "title", "tr", "track", "ul", "wbr", "xmp"]

/-- The blocks that close a paragraph before them and are closed by name. -/
def blocks : List String :=
  ["address", "article", "aside", "blockquote", "center", "details", "dialog", "dir", "div", "dl",
    "fieldset", "figcaption", "figure", "footer", "header", "hgroup", "main", "menu", "nav", "ol",
    "section", "summary", "ul"]

/-- The elements of HTML that cannot stand in a drawing or a formula. -/
def breakout : List String :=
  ["b", "big", "blockquote", "body", "br", "center", "code", "dd", "div", "dl", "dt", "em",
    "embed", "h1", "h2", "h3", "h4", "h5", "h6", "head", "hr", "i", "img", "li", "listing", "menu",
    "meta", "nobr", "ol", "p", "pre", "ruby", "s", "small", "span", "strong", "strike", "sub",
    "sup", "table", "tt", "u", "ul", "var"]

/-- The elements that limit the search for an open element. -/
def isScope (n : Name) : Bool :=
  n.isIn ["applet", "caption", "html", "table", "td", "th", "marquee", "object", "template"] ||
    n.isMathText || n.isDrawingText

/-- The elements that limit the search for an open list item. -/
def isListScope (n : Name) : Bool :=
  n.isScope || n.isIn ["ol", "ul"]

/-- The elements that limit the search for an open paragraph. -/
def isButtonScope (n : Name) : Bool :=
  n.isScope || n.is "button"

/-- The elements that limit the search for a part of a table. -/
def isTableScope (n : Name) : Bool :=
  n.isIn ["html", "table", "template"]

/-- The elements that limit the search for an open selection. -/
def isSelectScope (n : Name) : Bool :=
  !n.isIn ["optgroup", "option"]

end Name

end Footage.Markup
