import Footage.Markup.Visible
import Footage.Proofs.Words

/-!
# Flattened text

The words of an element are those of its children, one child after the other, as long as blocks
stand between them: no word goes on across the edge of a block. Other elements are no edges, so that
their children may as well stand in their place. Hidden elements, comments and attributes leave no
trace in the text, wherever they stand.

## Main definitions

* `Markup.Node.flattenAll`: the text of some nodes.
* `Markup.Gap`: a place in a document where nodes may stand.
* `Markup.Node.isBlock` and `Markup.Node.isUnseen`: the nodes that are set apart, and those that
  leave no trace.
* `Markup.Node.FlattensByWords`: how the text of an element hangs together with what is in it.

## Main results

* `Markup.Node.words_flattenAll_block`: a block keeps its words apart from those around it.
* `Markup.Gap.visibleAll_fill`: nodes with the same text have the same text wherever they stand.
* `Markup.Node.flattensByWords`: all of this together.
-/

namespace Footage.Markup

open Text

namespace Node

/-! ## Texts of nodes -/

/-- The text of some nodes, with single spaces between the words. -/
def flattenAll (nodes : List Node) : List Char :=
  collapse (visibleAll nodes)

theorem visibleAll_cons (node : Node) (nodes : List Node) :
    visibleAll (node :: nodes) = node.visible ++ visibleAll nodes := rfl

@[simp]
theorem visibleAll_append (before after : List Node) :
    visibleAll (before ++ after) = visibleAll before ++ visibleAll after := by
  induction before with
  | nil => rfl
  | cons node before ih =>
    rw [List.cons_append, visibleAll_cons, ih, visibleAll_cons, List.append_assoc]

@[simp]
theorem visibleAll_singleton (node : Node) : visibleAll [node] = node.visible :=
  List.append_nil _

/-- Collapsing the text of some nodes does not change its words. -/
theorem words_flattenAll (nodes : List Node) :
    words (flattenAll nodes) = words (visibleAll nodes) :=
  words_collapse _

/-! ## Blocks -/

/-- Whether a node is an element that is set apart from the text around it. -/
def isBlock : Node → Bool
  | element name _ _ => name.isBlock
  | _ => false

/-- What is set apart is not hidden. -/
theorem isHidden_of_isBlock {name : Name} (h : name.isBlock = true) : name.isHidden = false := by
  have hnames : ∀ name ∈ blockNames, hiddenNames.contains name = false := by decide
  exact hnames name.name (List.contains_iff_mem.1 h)

/-- A block has a blank on either side. -/
theorem visible_of_isBlock {block : Node} (h : block.isBlock = true) :
    block.visible = ' ' :: (visibleAll block.children ++ [' ']) := by
  cases block with
  | element name attributes children =>
    have hblock : name.isBlock = true := h
    rw [visible, isHidden_of_isBlock hblock, hblock]
    rfl
  | text => cases h
  | comment => cases h

/-- A block keeps its words apart from those before it and those after it. -/
theorem words_flattenAll_block {block : Node} (h : block.isBlock = true)
    (before after : List Node) :
    words (flattenAll (before ++ block :: after)) =
      words (flattenAll before) ++ words block.flatten ++ words (flattenAll after) := by
  have hinside : words block.flatten = words (visibleAll block.children) := words_collapse _
  simp only [words_flattenAll, visibleAll_append, visibleAll_cons, visible_of_isBlock h, hinside]
  -- The blank before the block and the one after it are where the text is cut.
  rw [List.cons_append, words_append_cons rfl, List.append_assoc, List.singleton_append,
    words_append_cons rfl, List.append_assoc]

/-! ## Elements that are no blocks -/

/-- An element that is neither set apart nor hidden has the text of its children. -/
theorem visible_of_inline {name : Name} (hhidden : name.isHidden = false)
    (hblock : name.isBlock = false) (attributes : List Attribute) (children : List Node) :
    (element name attributes children).visible = visibleAll children := by
  rw [visible, hhidden, hblock]
  rfl

/-- The text of an element does not hang on its attributes. -/
theorem visible_attributes (name : Name) (attributes others : List Attribute)
    (children : List Node) :
    (element name attributes children).visible = (element name others children).visible := by
  rw [visible, visible]

/-! ## Nodes that leave no trace -/

/-- Whether a node is a hidden element or a comment. -/
def isUnseen : Node → Bool
  | element name _ _ => name.isHidden
  | text _ => false
  | comment _ => true

theorem visible_of_isUnseen {node : Node} (h : node.isUnseen = true) : node.visible = [] := by
  cases node with
  | element name attributes children =>
    have hhidden : name.isHidden = true := h
    rw [visible, hhidden]
    rfl
  | text => cases h
  | comment => rfl

/-- The nodes that are seen. -/
def seen (nodes : List Node) : List Node :=
  nodes.filter fun node => !node.isUnseen

theorem visibleAll_seen (nodes : List Node) : visibleAll (seen nodes) = visibleAll nodes := by
  induction nodes with
  | nil => rfl
  | cons node nodes ih =>
    rw [seen, List.filter_cons]
    split_ifs with hseen
    · rw [visibleAll_cons, ← seen, ih, visibleAll_cons]
    · -- A node that is left out has no text.
      have hunseen : node.isUnseen = true := by simpa using hseen
      rw [← seen, ih, visibleAll_cons, visible_of_isUnseen hunseen, List.nil_append]

end Node

/-! ## Places -/

open Node

/-- A place in a document where nodes may stand, with what is around it. -/
inductive Gap where
  /-- Between siblings. -/
  | among (before after : List Node)
  /-- Among the children of an element, or in one of them. -/
  | within (before : List Node) (name : Name) (attributes : List Attribute) (gap : Gap)
      (after : List Node)

namespace Gap

/-- The nodes around a place with some nodes in it. -/
def fill (nodes : List Node) : Gap → List Node
  | among before after => before ++ nodes ++ after
  | within before name attributes gap after =>
    before ++ element name attributes (gap.fill nodes) :: after

/-- Nodes with the same text have the same text wherever they stand. -/
theorem visibleAll_fill {nodes others : List Node} (h : visibleAll nodes = visibleAll others)
    (gap : Gap) : visibleAll (gap.fill nodes) = visibleAll (gap.fill others) := by
  -- From the place outwards, what is around the nodes stays the same.
  induction gap with
  | among before after => simp only [fill, visibleAll_append, h]
  | within before name attributes gap after ih =>
    simp only [fill, visibleAll_append, visibleAll_cons, visible, ih]

theorem flattenAll_fill {nodes others : List Node} (h : visibleAll nodes = visibleAll others)
    (gap : Gap) : flattenAll (gap.fill nodes) = flattenAll (gap.fill others) := by
  rw [flattenAll, flattenAll, visibleAll_fill h]

end Gap

namespace Node

/-- How the text of an element hangs together with what is in it. -/
structure FlattensByWords (name : Name) (attributes : List Attribute) : Prop where
  /-- A block keeps its words apart from those before it and those after it. -/
  block : ∀ (before : List Node) (block : Node) (after : List Node), block.isBlock = true →
    words (element name attributes (before ++ block :: after)).flatten =
      words (flattenAll before) ++ words block.flatten ++ words (flattenAll after)
  /-- In the place of an element that is neither a block nor hidden, its children may stand. -/
  inline : ∀ (gap : Gap) (inner : Name) (given : List Attribute) (children : List Node),
    inner.isHidden = false → inner.isBlock = false →
      (element name attributes (gap.fill [element inner given children])).flatten =
        (element name attributes (gap.fill children)).flatten
  /-- Hidden elements and comments may be removed, added or altered. -/
  unseen : ∀ (gap : Gap) (nodes others : List Node), seen nodes = seen others →
    (element name attributes (gap.fill nodes)).flatten =
      (element name attributes (gap.fill others)).flatten
  /-- The attributes of an element may be altered. -/
  altered : ∀ (gap : Gap) (inner : Name) (given others : List Attribute) (children : List Node),
    (element name attributes (gap.fill [element inner given children])).flatten =
      (element name attributes (gap.fill [element inner others children])).flatten
  /-- So may the name and the attributes of the element itself. -/
  own : ∀ (other : Name) (others : List Attribute) (children : List Node),
    (element other others children).flatten = (element name attributes children).flatten

/-- The text of each element is put together from the words of its children. -/
theorem flattensByWords (name : Name) (attributes : List Attribute) :
    FlattensByWords name attributes where
  block before block after hblock := words_flattenAll_block hblock before after
  inline gap inner given children hhidden hblock := by
    have hsame : visibleAll [element inner given children] = visibleAll children := by
      rw [visibleAll_singleton, visible_of_inline hhidden hblock]
    exact Gap.flattenAll_fill hsame gap
  unseen gap nodes others hseen := by
    have hsame : visibleAll nodes = visibleAll others := by
      rw [← visibleAll_seen nodes, hseen, visibleAll_seen]
    exact Gap.flattenAll_fill hsame gap
  altered gap inner given others children := by
    have hsame : visibleAll [element inner given children] =
        visibleAll [element inner others children] := by
      rw [visibleAll_singleton, visibleAll_singleton, visible_attributes]
    exact Gap.flattenAll_fill hsame gap
  own _ _ _ := rfl

end Node

end Footage.Markup
