import Footage.Markup.Builder

/-!
# End tags out of order

When the end tag of a formatting element comes while blocks are open inside it, the blocks are
moved out of the element and formatted by elements of their own.
-/

namespace Footage.Markup.Build

/-- Closes an ordinary element and the elements in it, unless a special element is open inside
it. -/
def endOrdinary (name : String) : Build Unit := do
  let b ← get
  let rec find : List Nat → Bool
    | [] => false
    | id :: rest =>
      let other := b.arena.name id
      other.is name || (!other.isIn Name.special && find rest)
  if find b.opened then
    let isTarget (id : Nat) : Bool := (b.arena.name id).is name
    modify fun b => { b with opened := (b.opened.dropWhile fun id => !isTarget id).tail }

/-- The list with one number replaced. -/
def replaceId (old new : Nat) (ids : List Nat) : List Nat :=
  ids.map fun id => if id = old then new else id

/-- A new element for a formatting element, in its place among the open ones and in the list. -/
def renew (id : Nat) (tag : Tag) : Build Nat := do
  let new ← create (.element ⟨.html, tag.name⟩ tag.attributes)
  modify fun b => { b with
    opened := replaceId id new b.opened
    formatting := b.formatting.map fun entry =>
      if entry = .element id tag then .element new tag else entry }
  return new

/-- The tag of a formatting element in the list. -/
def tagOf? (id : Nat) (formatting : List Formatting) : Option Tag :=
  formatting.findSome? fun
    | .element other tag => if other = id then some tag else none
    | .marker => none

/-- Moves a block out through the elements between it and the formatting element, innermost
first. Formatting elements among the first three of them are renewed around it and others are
closed. Gives the outermost of the new elements, or the block, and the innermost new element. -/
def climb (block : Nat) : Nat → Nat → Option Nat → List Nat → Build (Nat × Option Nat)
  | _, last, mark, [] => return (last, mark)
  | count, last, mark, id :: rest => do
    match tagOf? id (← get).formatting with
    | some tag =>
      if 3 ≤ count then
        forget id
        unopen id
        climb block (count + 1) last mark rest
      else
        let new ← renew id tag
        onArena fun arena => arena.append new last
        climb block (count + 1) new (if last = block then some new else mark) rest
    | none =>
      unopen id
      climb block (count + 1) last mark rest

/-- The list of formatting elements, last first, with a new element in place of an old one, or
right after the mark if there is one. -/
def settle (old new : Nat) (tag : Tag) (mark : Option Nat) (formatting : List Formatting) :
    List Formatting :=
  match mark with
  | none =>
    formatting.map fun
      | .element id other => if id = old then .element new tag else .element id other
      | .marker => .marker
  | some mark =>
    without old <| formatting.flatMap fun
      | .element id other =>
        if id = mark then [.element new tag, .element id other] else [.element id other]
      | .marker => [.marker]

/-- The list with a number before another one. -/
def insertBefore (place new : Nat) : List Nat → List Nat
  | [] => []
  | id :: rest => if id = place then new :: id :: rest else id :: insertBefore place new rest

/-- Moves a block out of a formatting element. -/
def moveOut (element : Nat) (tag : Tag) (block : Nat) : Build Unit := do
  let opened := (← get).opened
  let ancestor := ((opened.dropWhile (· ≠ element)).tail).headD 0
  let between := ((opened.takeWhile (· ≠ element)).dropWhile (· ≠ block)).tail
  let (last, mark) ← climb block 0 block none between
  onArena fun arena => arena.detach last
  putAt (← placeFor ancestor) last
  let new ← create (.element ⟨.html, tag.name⟩ tag.attributes)
  onArena fun arena => (arena.moveChildren block new).append block new
  modify fun b => { b with
    formatting := settle element new tag mark b.formatting
    opened := insertBefore block new (b.opened.erase element) }

/-- Ends a formatting element, moving out the blocks in it one after the other. The first
argument bounds their number. -/
def endBlocks : Nat → String → Build Unit
  | 0, _ => return
  | count + 1, name => do
    let b ← get
    match (sinceMarker b.formatting).find? fun (_, tag) => tag.name == name with
    | none => endOrdinary name
    | some (element, tag) =>
      if !b.opened.contains element then forget element
      else if !(← inScope Name.isScope fun id _ => id = element) then return
      else
        let inside := b.opened.takeWhile (· ≠ element)
        match inside.reverse.find? fun id => (b.arena.name id).isIn Name.special with
        | none =>
          modify fun b => { b with opened := (b.opened.dropWhile (· ≠ element)).tail }
          forget element
        | some block =>
          moveOut element tag block
          endBlocks count name

/-- Ends a formatting element. -/
def endFormatting (name : String) : Build Unit := do
  let b ← get
  let id := b.opened.headD 0
  if (b.arena.name id).is name && (tagOf? id b.formatting).isNone then pop
  else endBlocks 8 name

/-- Ends a link before another one starts. -/
def endOpenLink : Build Unit := do
  let b ← get
  match (sinceMarker b.formatting).find? fun (id, _) => (b.arena.name id).is "a" with
  | none => return
  | some (id, _) =>
    endFormatting "a"
    forget id
    unopen id

end Footage.Markup.Build
