import Footage.Markup.Focus
import Footage.Markup.Token
import Footage.Text.Substring

/-!
# Selectors

A selector picks elements of a document by their names, attributes and places.
-/

namespace Footage.Markup

/-- How an element lies to the one that is named to the left of it. -/
inductive Combinator where
  | descendant
  | child
  /-- The next sibling. -/
  | next
  /-- Any later sibling. -/
  | later
  deriving DecidableEq, Repr

/-- How the value of an attribute is compared with a text. -/
inductive Comparison where
  | equal
  /-- The text is one of the words of the value. -/
  | word
  /-- The value is the text, or the text is what it has before a hyphen. -/
  | dash
  | start
  | finish
  | inside
  deriving DecidableEq, Repr

/-- A condition on one element. A complex condition, as in the lists, is written from right to
left: the conditions on the element itself come first, and each later group of conditions has the
combinator before it. -/
inductive Simple where
  | any
  /-- No element has the name. -/
  | none
  | name (name : String)
  | id (id : String)
  | className (name : String)
  | present (name : String)
  | value (name : String) (comparison : Comparison) (text : String) (ignoreCase : Bool)
  | root
  | empty
  /-- The element from which the search started. -/
  | scope
  /-- The element is one of every `step` elements, from `offset` on, among its siblings. They may
  be counted from the end, and only those of its own name. -/
  | nth (fromEnd sameName : Bool) (step offset : Int)
  | not (options : List (List (Combinator × List Simple)))
  | oneOf (options : List (List (Combinator × List Simple)))
  /-- There is an element that lies to this one as described. -/
  | has (options : List (List (Combinator × List Simple)))
  deriving Inhabited

/-- A condition on an element and on elements around it. -/
abbrev Complex := List (Combinator × List Simple)

/-- A selector is a list of conditions of which one must hold. -/
abbrev Selector := List Complex

namespace Simple

/-- The attributes of HTML whose values are compared in any case. -/
def caselessAttributes : List String :=
  ["accept", "accept-charset", "align", "alink", "axis", "bgcolor", "charset", "checked", "clear",
    "codetype", "color", "compact", "declare", "defer", "dir", "direction", "disabled", "enctype",
    "face", "frame", "hreflang", "http-equiv", "lang", "language", "link", "media", "method",
    "multiple", "nohref", "noresize", "noshade", "nowrap", "readonly", "rel", "rev", "rules",
    "scope", "scrolling", "selected", "shape", "target", "text", "type", "valign", "valuetype",
    "vlink"]

/-- The words of a value. -/
def wordsOf (value : List Char) : List (List Char) :=
  (value.splitOnP isTagSpace).filter fun word => !word.isEmpty

end Simple

/-- Whether a value compares with a text as required. -/
def Comparison.holds (value text : List Char) : Comparison → Bool
  | equal => value == text
  | word => !text.isEmpty && (Simple.wordsOf value).contains text
  | dash => value == text || (text ++ ['-']).isPrefixOf value
  | start => !text.isEmpty && text.isPrefixOf value
  | finish => !text.isEmpty && text.isSuffixOf value
  | inside => !text.isEmpty && Text.contains text value

namespace Focus

/-- The element's own spelling of a name: in HTML it is in lower case. -/
def spelling (focus : Focus) (name : String) : String :=
  match focus.node.name? with
  | some ⟨.html, _⟩ => name.toLower
  | _ => name

/-- The number of siblings that count, up to the element and from one end. -/
def position (focus : Focus) (fromEnd sameName : Bool) : Int :=
  let siblings := if fromEnd then focus.here.after else focus.here.before
  let counts (node : Node) : Bool :=
    node.isElement && (!sameName || node.name? = focus.node.name?)
  (siblings.filter counts).length + 1

/-- Whether a position is one of every `step`, from `offset` on. -/
def isNth (step offset position : Int) : Bool :=
  if step = 0 then position = offset
  else (position - offset) % step = 0 && 0 ≤ (position - offset) / step

/-- The elements that may lie to the element as a combinator says, to its left. -/
def leftOf (focus : Focus) : Combinator → List Focus
  | .descendant => focus.ancestors
  | .child => focus.parent?.toList
  | .next => (focus.siblingsBefore.filter isElement).take 1
  | .later => focus.siblingsBefore.filter isElement

/-- The elements that a condition on another one may be about. -/
def around (focus : Focus) : List Focus :=
  (focus.descendants ++ focus.siblingsAfter.flatMap fun sibling =>
    sibling :: sibling.descendants).filter isElement

end Focus

namespace Simple

mutual

/-- Whether a condition holds of an element, given the place where the search started. -/
def holds (scope : Option (List Nat)) (focus : Focus) : Simple → Bool
  | any => true
  | none => false
  | name wanted => (focus.node.name?.map Name.name) == some (focus.spelling wanted)
  | id wanted => focus.node.attribute? "id" == some wanted
  | className wanted =>
    (focus.node.attribute? "class").any fun value => (wordsOf value.toList).contains wanted.toList
  | present key => (focus.node.attribute? (focus.spelling key)).isSome
  | value key comparison text ignoreCase =>
    let key := focus.spelling key
    let isHtml := (focus.node.name?.map Name.space) == some .html
    let fold (text : String) : List Char :=
      if ignoreCase || (isHtml && caselessAttributes.contains key) then text.toList.map Char.toLower
      else text.toList
    (focus.node.attribute? key).any fun value => comparison.holds (fold value) (fold text)
  | root => focus.up.isEmpty
  | empty => focus.node.children.all fun node =>
    match node with
    | .comment _ => true
    | _ => false
  | .scope =>
    match scope with
    | some path => focus.path == path
    | Option.none => focus.up.isEmpty
  | nth fromEnd sameName step offset =>
    Focus.isNth step offset (focus.position fromEnd sameName)
  | not options => !anyHolds scope focus options
  | oneOf options => anyHolds scope focus options
  | has options => focus.around.any fun other => anyHolds (some focus.path) other options

/-- Whether all conditions hold of an element. -/
def allHold (scope : Option (List Nat)) (focus : Focus) : List Simple → Bool
  | [] => true
  | condition :: rest => holds scope focus condition && allHold scope focus rest

/-- Whether a complex condition holds of an element that lies to the left of another. -/
def leftHolds (scope : Option (List Nat)) (focus : Focus) :
    List (Combinator × List Simple) → Bool
  | [] => true
  | step :: rest => stepHolds scope focus (leftHolds scope · rest) step

/-- Whether some element to the left meets one group of conditions and what is required of the
elements further left. -/
def stepHolds (scope : Option (List Nat)) (focus : Focus) (more : Focus → Bool) :
    Combinator × List Simple → Bool
  | (combinator, conditions) =>
    (focus.leftOf combinator).any fun other => allHold scope other conditions && more other

/-- Whether a complex condition holds of an element. -/
def complexHolds (scope : Option (List Nat)) (focus : Focus) :
    List (Combinator × List Simple) → Bool
  | [] => false
  | subject :: rest => subjectHolds scope focus subject && leftHolds scope focus rest

/-- Whether the conditions on the element itself hold. -/
def subjectHolds (scope : Option (List Nat)) (focus : Focus) :
    Combinator × List Simple → Bool
  | (_, conditions) => allHold scope focus conditions

/-- Whether one of some complex conditions holds of an element. -/
def anyHolds (scope : Option (List Nat)) (focus : Focus) :
    List (List (Combinator × List Simple)) → Bool
  | [] => false
  | option :: rest => complexHolds scope focus option || anyHolds scope focus rest

end

end Simple

namespace Selector

/-- Whether a selector picks an element. -/
def picks (selector : Selector) (scope : Option (List Nat)) (focus : Focus) : Bool :=
  focus.isElement && Simple.anyHolds scope focus selector

/-- The elements of a document that a selector picks, in the order of the document. -/
def select (selector : Selector) (nodes : List Node) : List Focus :=
  (Focus.ofDocument nodes).filter (selector.picks none)

/-- The elements in an element that a selector picks, in the order of the document. -/
def selectIn (selector : Selector) (focus : Focus) : List Focus :=
  focus.descendants.filter (selector.picks (some focus.path))

end Selector

end Footage.Markup
