import Footage.Markup.Arena
import Footage.Markup.Token

/-!
# Building documents

The state in which a document is built from its tokens: the elements that are open, the
formatting elements that go on after the ends of blocks, and the rule by which the next token is
read.
-/

namespace Footage.Markup

/-- The rules by which tokens are read, named for the place in the document. -/
inductive Mode where
  | initial
  | beforeHtml
  | beforeHead
  | inHead
  | afterHead
  | inBody
  | text
  | inTable
  | inTableText
  | inCaption
  | inColumnGroup
  | inTableBody
  | inRow
  | inCell
  | inSelect
  | inSelectInTable
  | inTemplate
  | afterBody
  | inFrameset
  | afterFrameset
  | afterAfterBody
  | afterAfterFrameset
  deriving DecidableEq, Repr

/-- An entry of the list of formatting elements. -/
inductive Formatting where
  | marker
  | element (id : Nat) (tag : Tag)
  deriving DecidableEq, Repr

/-- The state of a document that is being built. -/
structure Builder where
  arena : Arena := .start
  mode : Mode := .initial
  /-- The mode to return to after text. -/
  outer : Mode := .inBody
  /-- The open elements, innermost first. -/
  opened : List Nat := []
  /-- The formatting elements, last first. -/
  formatting : List Formatting := []
  head : Option Nat := none
  form : Option Nat := none
  /-- Whether frames may still take the place of the body. -/
  framesAllowed : Bool := true
  /-- Whether misplaced content of tables goes before the table. -/
  fostering : Bool := false
  /-- Whether a line feed that comes next is dropped. -/
  dropsLine : Bool := false
  /-- Whether the document follows the rules of old documents. -/
  old : Bool := false
  /-- The modes of the open templates, innermost first. -/
  templates : List Mode := []
  /-- The text in a table that has not been placed yet, last character first. -/
  pending : List Char := []

/-- A step in the building of a document. -/
abbrev Build := StateM Builder

/-- What happens after a token was read. -/
inductive Next where
  | done
  /-- The token is read again by the rules of the current mode. -/
  | again (token : Token)
  /-- The text that follows is scanned in another mode. -/
  | scan (mode : TextMode)

namespace Build

/-! ## Open elements -/

/-- The innermost open element. -/
def current : Build Nat := do
  return (← get).opened.headD 0

/-- The name of a node. -/
def nameOf (id : Nat) : Build Name := do
  return (← get).arena.name id

/-- The name of the innermost open element. -/
def currentName : Build Name := do
  nameOf (← current)

/-- Whether the innermost open element has a given name. -/
def currentIs (name : String) : Build Bool := do
  return (← currentName).is name

/-- Changes the tree. -/
def onArena (change : Arena → Arena) : Build Unit :=
  modify fun b => { b with arena := change b.arena }

/-- Switches to another mode. -/
def switch (mode : Mode) : Build Unit :=
  modify fun b => { b with mode }

/-- Forbids frames. -/
def forbidFrames : Build Unit :=
  modify fun b => { b with framesAllowed := false }

/-- Opens an element. -/
def push (id : Nat) : Build Unit :=
  modify fun b => { b with opened := id :: b.opened }

/-- Closes the innermost open element. -/
def pop : Build Unit :=
  modify fun b => { b with opened := b.opened.tail }

/-- Takes an element out of the open elements. -/
def unopen (id : Nat) : Build Unit :=
  modify fun b => { b with opened := b.opened.erase id }

/-- Whether an element with one of some names is open. -/
def hasOpen (name : String) : Build Bool := do
  let b ← get
  return b.opened.any fun id => (b.arena.name id).is name

/-- Whether a wanted element is open within a scope: no element that limits the scope is open
inside it. -/
def inScope (limits : Name → Bool) (wanted : Nat → Name → Bool) : Build Bool := do
  let b ← get
  let rec search : List Nat → Bool
    | [] => false
    | id :: rest =>
      let name := b.arena.name id
      wanted id name || (!limits name && search rest)
  return search b.opened

/-- Whether an element of a given name is open within a scope. -/
def inScopeNamed (limits : Name → Bool) (name : String) : Build Bool :=
  inScope limits fun _ other => other.is name

/-- Closes elements up to the first one that passes a test, and that one, too. -/
def popThrough (test : Name → Bool) : Build Unit :=
  modify fun b =>
    { b with opened := (b.opened.dropWhile fun id => !test (b.arena.name id)).tail }

/-- Closes elements up to one of a given name, and that one, too. -/
def popThroughNamed (name : String) : Build Unit :=
  popThrough (·.is name)

/-- Closes elements as long as they pass a test. -/
def popWhile (test : Name → Bool) : Build Unit :=
  modify fun b => { b with opened := b.opened.dropWhile fun id => test (b.arena.name id) }

/-- Closes the elements whose end is implied. -/
def closeImplied : Build Unit :=
  popWhile (·.isIn Name.implied)

/-- Closes the elements whose end is implied, but none of a given name. -/
def closeImpliedExcept (name : String) : Build Unit :=
  popWhile fun other => other.isIn Name.implied && !other.is name

/-- Closes an element of a given name and the elements in it. -/
def close (name : String) : Build Unit := do
  closeImpliedExcept name
  popThroughNamed name

/-- Closes an open paragraph within the scope of buttons. -/
def closeParagraph : Build Unit := do
  if ← inScopeNamed Name.isButtonScope "p" then close "p"

/-! ## Insertion -/

/-- A place in the tree. -/
inductive Place where
  | lastChild (parent : Nat)
  /-- Before a table, or at the end of another element if the table is in no place. -/
  | beforeTable (table other : Nat)

/-- The names of the elements whose misplaced content goes before the table. -/
def fosterNames : List String := ["table", "tbody", "tfoot", "thead", "tr"]

/-- The place before the innermost table, or in a template that is open inside it. -/
def fosterPlace (arena : Arena) : List Nat → Place
  | [] => .lastChild 0
  | [id] => .lastChild id
  | id :: outer :: rest =>
    if (arena.name id).is "template" then .lastChild id
    else if (arena.name id).is "table" then .beforeTable id outer
    else fosterPlace arena (outer :: rest)

/-- The place where a node goes that belongs into a given element. -/
def placeFor (target : Nat) : Build Place := do
  let b ← get
  if b.fostering && (b.arena.name target).isIn fosterNames then
    return fosterPlace b.arena b.opened
  else return .lastChild target

/-- Puts a node into a place. -/
def putAt (place : Place) (id : Nat) : Build Unit :=
  onArena fun arena =>
    match place with
    | .lastChild parent => arena.append parent id
    | .beforeTable table other =>
      if (arena.parent? table).isSome then arena.insertBefore table id else arena.append other id

/-- Makes a node that is in no place yet. -/
def create (content : Content) : Build Nat := do
  let id := (← get).arena.size
  onArena fun arena => arena.add content
  return id

/-- Puts a new element into its place without opening it. -/
def insertClosed (space : Space) (tag : Tag) : Build Nat := do
  let id ← create (.element ⟨space, tag.name⟩ tag.attributes)
  putAt (← placeFor (← current)) id
  return id

/-- Puts a new element into its place and opens it. -/
def insert (space : Space) (tag : Tag) : Build Nat := do
  let id ← insertClosed space tag
  push id
  return id

/-- Opens a new element of HTML. -/
def openTag (tag : Tag) : Build Unit :=
  discard (insert .html tag)

/-- Opens a new element of HTML that the document does not state. -/
def openName (name : String) : Build Unit :=
  openTag { name }

/-- Puts a new element of HTML without content into its place. -/
def insertEmpty (tag : Tag) : Build Unit :=
  discard (insertClosed .html tag)

/-- Puts a character into its place. -/
def insertChar (c : Char) : Build Unit := do
  let place ← placeFor (← current)
  onArena fun arena =>
    match place with
    | .lastChild parent => arena.appendChar parent c
    | .beforeTable table other =>
      if (arena.parent? table).isSome then arena.insertCharBefore table c
      else arena.appendChar other c

/-- Puts a comment into its place. -/
def insertComment (text : String) : Build Unit := do
  let id ← create (.comment text)
  putAt (← placeFor (← current)) id

/-- Puts a comment at the end of a node. -/
def appendComment (parent : Nat) (text : String) : Build Unit := do
  let id ← create (.comment text)
  onArena fun arena => arena.append parent id

/-- Makes the outermost element. -/
def openRoot (attributes : List Attribute) : Build Unit := do
  let id ← create (.element ⟨.html, "html"⟩ attributes)
  onArena fun arena => arena.append 0 id
  push id

/-- The outermost open element. -/
def root : Build Nat := do
  return (← get).opened.getLastD 0

/-- The body, if it is the second of the open elements from outside. -/
def body? : Build (Option Nat) := do
  let b ← get
  match b.opened.reverse with
  | _ :: id :: _ => return if (b.arena.name id).is "body" then some id else none
  | _ => return none

/-- Reads the content of an element as text. -/
def openText (tag : Tag) (mode : TextMode) : Build Next := do
  openTag tag
  modify fun b => { b with outer := b.mode, mode := .text }
  return .scan mode

/-! ## Formatting elements -/

/-- Opens elements for the entries of the list, last first, that are not settled. -/
def reopen : List Formatting → Build (List Formatting)
  | [] => return []
  | .marker :: rest => return .marker :: rest
  | .element id tag :: rest => do
    if (← get).opened.contains id then return .element id tag :: rest
    else
      let rest ← reopen rest
      let id ← insert .html tag
      return .element id tag :: rest

/-- Opens the formatting elements again that the end of a block has closed. -/
def reconstruct : Build Unit := do
  let b ← get
  match b.formatting with
  | .element id _ :: _ =>
    if b.opened.contains id then return
    let formatting ← reopen b.formatting
    modify fun b => { b with formatting }
  | _ => return

/-- The formatting elements since the last marker, last first. -/
def sinceMarker : List Formatting → List (Nat × Tag)
  | .element id tag :: rest => (id, tag) :: sinceMarker rest
  | _ => []

/-- Forgets the formatting elements since the last marker, and the marker. -/
def clearToMarker : Build Unit :=
  modify fun b => { b with formatting := (b.formatting.dropWhile (· ≠ .marker)).tail }

/-- Notes that formatting elements end here. -/
def pushMarker : Build Unit :=
  modify fun b => { b with formatting := .marker :: b.formatting }

/-- The list without the entry of an element. -/
def without (id : Nat) (formatting : List Formatting) : List Formatting :=
  formatting.filter fun
    | .element other _ => other ≠ id
    | .marker => true

/-- Forgets a formatting element. -/
def forget (id : Nat) : Build Unit :=
  modify fun b => { b with formatting := without id b.formatting }

/-- Whether two tags are equal up to the order of their attributes. -/
def sameTag (a b : Tag) : Bool :=
  a.name == b.name && a.attributes.length == b.attributes.length &&
    a.attributes.all b.attributes.contains

/-- Opens a formatting element. Of equal ones, at most three are remembered. -/
def openFormatting (tag : Tag) : Build Unit := do
  let equal := (sinceMarker (← get).formatting).filter fun (_, other) => sameTag tag other
  if 3 ≤ equal.length then
    match equal.getLast? with
    | some (id, _) => forget id
    | none => pure ()
  let id ← insert .html tag
  modify fun b => { b with formatting := .element id tag :: b.formatting }

end Build

end Footage.Markup
