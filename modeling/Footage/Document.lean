import Footage.Markup.Focus
import Footage.Markup.Reader
import Footage.Markup.Visible

/-!
# Documents

A document with its visible text.
-/

namespace Footage

open Markup

/-- A document. -/
structure Document where
  nodes : List Node
  text : String

namespace Document

/-- The outermost element of some nodes. -/
def rootOf (nodes : List Node) : Node :=
  (nodes.find? Node.isElement).getD (.text "")

/-- The document of some nodes. -/
def ofNodes (nodes : List Node) : Document :=
  ⟨nodes, String.ofList (rootOf nodes).flatten⟩

/-- The document that a text describes. -/
def ofText (text : String) : Document :=
  ofNodes (readDocument text.toList)

/-- Whether a node is a link. -/
def isLink (node : Node) : Bool :=
  (node.name?.map Name.name) == some "a" && (node.attribute? "href").isSome

/-- The links of the document, in its order. -/
def links (document : Document) : List Focus :=
  (Focus.ofDocument document.nodes).filter fun focus => isLink focus.node

end Document

end Footage
