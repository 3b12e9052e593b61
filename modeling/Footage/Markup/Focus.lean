import Footage.Markup.Tree

/-!
# Places in documents

A node together with what surrounds it: its siblings, and the same for each of its ancestors.
-/

namespace Footage.Markup

/-- A node among its siblings. Those before it are listed nearest first. -/
structure Frame where
  node : Node
  before : List Node
  after : List Node

/-- A node in a document, with its ancestors from the inside out. -/
structure Focus where
  here : Frame
  up : List Frame

namespace Focus

/-- The node itself. -/
def node (focus : Focus) : Node :=
  focus.here.node

/-- The parent of the node. -/
def parent? (focus : Focus) : Option Focus :=
  match focus.up with
  | [] => none
  | frame :: up => some ⟨frame, up⟩

/-- The ancestors from the inside out, given their frames. -/
def ofFrames : List Frame → List Focus
  | [] => []
  | frame :: up => ⟨frame, up⟩ :: ofFrames up

/-- The ancestors of the node, from the inside out. -/
def ancestors (focus : Focus) : List Focus :=
  ofFrames focus.up

/-- The siblings before a node, nearest first. -/
def beforeAll (up : List Frame) : List Node → List Node → List Focus
  | [], _ => []
  | node :: before, after => ⟨⟨node, before, after⟩, up⟩ :: beforeAll up before (node :: after)

/-- The siblings before the node, nearest first. -/
def siblingsBefore (focus : Focus) : List Focus :=
  beforeAll focus.up focus.here.before (focus.here.node :: focus.here.after)

/-- The siblings after the node, nearest first. -/
def afterAll (up : List Frame) : List Node → List Node → List Focus
  | _, [] => []
  | before, node :: after => ⟨⟨node, before, after⟩, up⟩ :: afterAll up (node :: before) after

/-- The siblings after the node, nearest first. -/
def siblingsAfter (focus : Focus) : List Focus :=
  afterAll focus.up (focus.here.node :: focus.here.before) focus.here.after

/-- The place of the node, as its number among the siblings and those of its ancestors. -/
def path (focus : Focus) : List Nat :=
  focus.here.before.length :: focus.up.map fun frame => frame.before.length

mutual

/-- A node and all nodes in it, in the order of the document. -/
def within (up : List Frame) (before after : List Node) : Node → List Focus
  | .element name attributes children =>
    let frame : Frame := ⟨.element name attributes children, before, after⟩
    ⟨frame, up⟩ :: withinAll (frame :: up) [] children
  | .text text => [⟨⟨.text text, before, after⟩, up⟩]
  | .comment text => [⟨⟨.comment text, before, after⟩, up⟩]

/-- Some siblings and all nodes in them, in the order of the document. -/
def withinAll (up : List Frame) (before : List Node) : List Node → List Focus
  | [] => []
  | node :: after => within up before after node ++ withinAll up (node :: before) after

end

/-- All nodes of a document, in its order. -/
def ofDocument (nodes : List Node) : List Focus :=
  withinAll [] [] nodes

/-- All nodes in a node, in the order of the document. -/
def descendants (focus : Focus) : List Focus :=
  withinAll (focus.here :: focus.up) [] focus.node.children

/-- Whether the node is an element. -/
def isElement (focus : Focus) : Bool :=
  focus.node.isElement

end Focus

end Footage.Markup
