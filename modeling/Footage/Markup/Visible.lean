import Footage.Markup.Tree
import Footage.Text.Blank

/-!
# Visible text

The text that a reader of a document sees. Scripts, styles and the like are hidden, and blocks are
set apart from the text around them.
-/

namespace Footage.Markup

open Text

/-- The elements whose content is hidden. -/
def hiddenNames : List String := ["script", "style", "noscript", "template", "head"]

/-- The elements that are set apart from the text around them. -/
def blockNames : List String :=
  ["address", "article", "aside", "blockquote", "br", "dd", "div", "dl", "dt", "fieldset",
    "figcaption", "figure", "footer", "form", "h1", "h2", "h3", "h4", "h5", "h6", "header", "hr",
    "li", "main", "nav", "ol", "p", "pre", "section", "table", "td", "th", "tr", "ul"]

/-- Whether the content of an element is hidden. -/
def Name.isHidden (name : Name) : Bool :=
  hiddenNames.contains name.name

/-- Whether an element is set apart from the text around it. -/
def Name.isBlock (name : Name) : Bool :=
  blockNames.contains name.name

namespace Node

mutual

/-- The visible text of a node, with its blanks as they are. -/
def visible : Node → List Char
  | element name _ children =>
    if name.isHidden then []
    else if name.isBlock then ' ' :: (visibleAll children ++ [' '])
    else visibleAll children
  | .text chars => chars.toList
  | .comment _ => []

/-- The visible text of some nodes, with its blanks as they are. -/
def visibleAll : List Node → List Char
  | [] => []
  | node :: nodes => node.visible ++ visibleAll nodes

end

/-- The words of the visible text in a node, with single spaces between them. -/
def flatten (node : Node) : List Char :=
  collapse (visibleAll node.children)

end Node

end Footage.Markup
