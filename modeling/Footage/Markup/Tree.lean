import Footage.Markup.Name

/-!
# Documents as trees

A document is a tree of elements, texts and comments.
-/

namespace Footage.Markup

/-- A piece of a document. -/
inductive Node where
  | element (name : Name) (attributes : List Attribute) (children : List Node)
  | text (text : String)
  | comment (text : String)
  deriving Repr, Inhabited

namespace Node

/-- The name of an element. -/
def name? : Node → Option Name
  | element name _ _ => some name
  | _ => none

/-- Whether the node is an element. -/
def isElement : Node → Bool
  | element _ _ _ => true
  | _ => false

/-- The children of an element. -/
def children : Node → List Node
  | element _ _ children => children
  | _ => []

/-- The value of an attribute of an element. -/
def attribute? (name : String) : Node → Option String
  | element _ attributes _ => (attributes.find? fun item => item.name == name).map Attribute.value
  | _ => none

mutual

/-- All the text in a node. -/
def innerText : Node → List Char
  | element _ _ children => innerTexts children
  | .text chars => chars.toList
  | comment _ => []

/-- All the text in some nodes. -/
def innerTexts : List Node → List Char
  | [] => []
  | node :: nodes => node.innerText ++ innerTexts nodes

end

end Node

end Footage.Markup
