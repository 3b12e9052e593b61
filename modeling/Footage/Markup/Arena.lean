import Footage.Markup.Tree

/-!
# Trees under construction

While a document is read, its nodes lie in an arena, where they can be moved about by number. Node
zero is the document itself.
-/

namespace Footage.Markup

/-- What a node holds. -/
inductive Content where
  | document
  | element (name : Name) (attributes : List Attribute)
  /-- A text, last character first. -/
  | text (reversed : List Char)
  | comment (text : String)
  deriving Inhabited

/-- A node with its place in the tree. The children are listed last first. -/
structure Cell where
  content : Content
  parent : Option Nat := none
  children : List Nat := []
  deriving Inhabited

/-- The nodes of a tree. -/
abbrev Arena := Array Cell

namespace Arena

/-- The arena that holds only the document. -/
def start : Arena := #[⟨.document, none, []⟩]

/-- The name of an element. Other nodes have an empty name. -/
def name (arena : Arena) (id : Nat) : Name :=
  match arena[id]?.map Cell.content with
  | some (.element name _) => name
  | _ => ⟨.html, ""⟩

/-- The parent of a node. -/
def parent? (arena : Arena) (id : Nat) : Option Nat :=
  arena[id]?.bind Cell.parent

/-- The children of a node, last first. -/
def children (arena : Arena) (id : Nat) : List Nat :=
  (arena[id]?.map Cell.children).getD []

/-- Whether a node is a text. -/
def isText (arena : Arena) (id : Nat) : Bool :=
  match arena[id]?.map Cell.content with
  | some (.text _) => true
  | _ => false

/-- The arena with another node, which is in no place of the tree. -/
def add (arena : Arena) (content : Content) : Arena :=
  arena.push ⟨content, none, []⟩

/-- The arena with a node taken out of its place. -/
def detach (arena : Arena) (id : Nat) : Arena :=
  match arena.parent? id with
  | none => arena
  | some parent =>
    (arena.modify parent fun cell => { cell with children := cell.children.filter (· ≠ id) }).modify
      id fun cell => { cell with parent := none }

/-- The arena with a node as the last child of another. -/
def append (arena : Arena) (parent id : Nat) : Arena :=
  ((arena.detach id).modify parent fun cell => { cell with children := id :: cell.children }).modify
    id fun cell => { cell with parent := some parent }

/-- A list with an element right after another one. -/
def insertAfter (place id : Nat) : List Nat → List Nat
  | [] => []
  | other :: rest =>
    if other = place then other :: id :: rest else other :: insertAfter place id rest

/-- The arena with a node before another one, if that one has a parent. -/
def insertBefore (arena : Arena) (sibling id : Nat) : Arena :=
  let arena := arena.detach id
  match arena.parent? sibling with
  | none => arena
  | some parent =>
    (arena.modify parent fun cell =>
      { cell with children := insertAfter sibling id cell.children }).modify
      id fun cell => { cell with parent := some parent }

/-- The arena with a character at the end of a text. -/
def extendText (arena : Arena) (id : Nat) (c : Char) : Arena :=
  arena.modify id fun cell =>
    match cell.content with
    | .text reversed => { cell with content := .text (c :: reversed) }
    | _ => cell

/-- The arena with a character after the last child of a node. It joins a text that is there. -/
def appendChar (arena : Arena) (parent : Nat) (c : Char) : Arena :=
  match (arena.children parent).head?.filter arena.isText with
  | some last => arena.extendText last c
  | none => (arena.add (.text [c])).append parent arena.size

/-- The arena with a character before a node. It joins a text that is there. -/
def insertCharBefore (arena : Arena) (sibling : Nat) (c : Char) : Arena :=
  match arena.parent? sibling with
  | none => arena
  | some parent =>
    match ((arena.children parent).dropWhile (· ≠ sibling))[1]?.filter arena.isText with
    | some before => arena.extendText before c
    | none => (arena.add (.text [c])).insertBefore sibling arena.size

/-- The arena with the children of one node moved to the end of another. -/
def moveChildren (arena : Arena) (source target : Nat) : Arena :=
  (arena.children source).reverse.foldl (fun arena id => arena.append target id) arena

/-- The arena with further attributes of an element. Those that it has stay as they are. -/
def addAttributes (arena : Arena) (id : Nat) (attributes : List Attribute) : Arena :=
  arena.modify id fun cell =>
    match cell.content with
    | .element name present =>
      let added := attributes.filter fun item => !present.any fun other => other.name == item.name
      { cell with content := .element name (present ++ added) }
    | _ => cell

mutual

/-- The tree below a node. The first argument bounds its height. -/
def toNode? (arena : Arena) : Nat → Nat → Option Node
  | 0, _ => none
  | fuel + 1, id =>
    match arena[id]?.map Cell.content with
    | some (.element name attributes) =>
      some (.element name attributes (toNodes arena fuel (arena.children id).reverse))
    | some (.text reversed) => some (.text (String.ofList reversed.reverse))
    | some (.comment text) => some (.comment text)
    | _ => none

/-- The trees below some nodes. -/
def toNodes (arena : Arena) : Nat → List Nat → List Node
  | 0, _ => []
  | _ + 1, [] => []
  | fuel + 1, id :: ids => (toNode? arena fuel id).toList ++ toNodes arena fuel ids

end

/-- The nodes of the document. -/
def documentNodes (arena : Arena) : List Node :=
  toNodes arena (2 * arena.size + 2) (arena.children 0).reverse

end Arena

end Footage.Markup
