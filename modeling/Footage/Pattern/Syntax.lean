/-!
# Written patterns

A regular expression as it is written: literals, classes, assertions, groups and repetitions,
with its flags still in place.
-/

namespace Footage.Pattern

/-- A switch that changes what the rest of its group means. -/
inductive Flag where
  | ignoreCase
  | multiLine
  | dotAll
  | swapGreed
  | unicode
  | crlf
  | verbose
  deriving DecidableEq, Repr

/-- The flags that are switched on or off at one place. -/
abbrev FlagChange := List (Flag × Bool)

/-- How a position can lie at a word. -/
inductive WordSide where
  /-- At the start or the end of a word. -/
  | edge
  /-- Neither at the start nor at the end of a word. -/
  | apart
  /-- At the start of a word. -/
  | start
  /-- At the end of a word. -/
  | finish
  /-- No word character before. -/
  | startHalf
  /-- No word character after. -/
  | finishHalf
  deriving DecidableEq, Repr

/-- An assertion about a position. -/
inductive Anchor where
  | lineStart
  | lineEnd
  | textStart
  | textEnd
  | word (side : WordSide)
  deriving DecidableEq, Repr

/-- A class of characters with a name. -/
inductive NamedClass where
  | digit
  | space
  | word
  /-- An ASCII class of the bracket syntax. -/
  | ascii (name : String)
  /-- A property of characters. -/
  | property (name : String)
  deriving DecidableEq, Repr

/-- The ways in which two classes are combined. -/
inductive ClassOp where
  | inter
  | diff
  | symmDiff
  deriving DecidableEq, Repr

/-- What stands in the brackets of a class. -/
inductive ClassItem where
  | empty
  | literal (c : Char)
  | range (first last : Char)
  | named (negated : Bool) (name : NamedClass)
  | union (left right : ClassItem)
  | combined (op : ClassOp) (left right : ClassItem)
  | bracketed (negated : Bool) (item : ClassItem)
  deriving DecidableEq, Repr

/-- A regular expression as it is written. -/
inductive Syntax where
  | empty
  | flags (change : FlagChange)
  | literal (c : Char)
  /-- A character given by two hexadecimal digits. -/
  | byte (c : Char)
  | dot
  | anchor (anchor : Anchor)
  | named (negated : Bool) (name : NamedClass)
  | bracketed (negated : Bool) (item : ClassItem)
  | repeated (least : Nat) (most : Option Nat) (greedy : Bool) (body : Syntax)
  | capture (index : Nat) (body : Syntax)
  | group (change : FlagChange) (body : Syntax)
  | concat (left right : Syntax)
  | alternate (left right : Syntax)
  deriving DecidableEq, Repr

namespace Syntax

/-- The parts written one after the other. -/
def concatAll : List Syntax → Syntax
  | [] => empty
  | [part] => part
  | part :: next :: parts => concat part (concatAll (next :: parts))

/-- The alternatives in their order. -/
def alternateAll : List Syntax → Syntax
  | [] => empty
  | [option] => option
  | option :: next :: options => alternate option (alternateAll (next :: options))

end Syntax

end Footage.Pattern
