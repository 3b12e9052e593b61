import Footage.Pattern.Reader
import Footage.Pattern.Search
import Footage.Pattern.Weight

/-!
# Patterns

Regular expressions for finding and taking apart texts. Of all matches, a search finds the one
that starts first and, among those, the one that the order of alternatives and the greed of
repetitions prefer.
-/

namespace Footage

open Pattern

/-- A compiled regular expression. -/
structure Pattern where
  /-- The expression as it is written. -/
  source : String
  program : Array Instr
  /-- The number of captures. -/
  groupCount : Nat

namespace Pattern

/-- Compiles a regular expression. -/
def ofText? (source : String) : Option Pattern := do
  let tree ← Syntax.read? source.toList
  let (expr, _) ← tree.resolve? {}
  if expr.weight + frameWeight ≤ maxWeight then
    some ⟨source, expr.program, expr.captures⟩
  else none

/-- What turns a written expression into a pattern, or rejects it. -/
abbrev Compiler := String → Option Pattern

/-- The first match that starts at or after a position. -/
def findFrom? (pattern : Pattern) (text : Array Char) (position : Nat) : Option Match :=
  (searchFrom pattern.program text (text.size + 1 - position) position (.start text.size)).map
    (.ofSaved text pattern.groupCount)

/-- The matches that start at or after a position, none of which overlaps another. An empty match
does not follow directly on another match. The first argument bounds their number. -/
def matchesFrom (pattern : Pattern) (text : Array Char) : Nat → Nat → Option Nat → List Match
  | 0, _, _ => []
  | fuel + 1, position, last =>
    match pattern.findFrom? text position with
    | none => []
    | some found =>
      if found.stop = found.start ∧ last = some found.stop then
        match pattern.findFrom? text (position + 1) with
        | none => []
        | some found => found :: pattern.matchesFrom text fuel found.stop (some found.stop)
      else found :: pattern.matchesFrom text fuel found.stop (some found.stop)

/-- The matches of a pattern in a text, from left to right. -/
def matchesIn (pattern : Pattern) (text : String) : List Match :=
  let text := text.toList.toArray
  pattern.matchesFrom text (text.size + 2) 0 none

/-- The first match of a pattern in a text. -/
def first? (pattern : Pattern) (text : String) : Option Match :=
  pattern.findFrom? text.toList.toArray 0

/-- Whether a pattern has a match in a text. -/
def isIn (pattern : Pattern) (text : String) : Bool :=
  (pattern.first? text).isSome

/-- The text that a match captured for a group other than the whole match, unless it is empty. -/
def Match.captured? (found : Match) (index : Nat) : Option String :=
  if index = 0 then none else (found.groups[index]?.join).filter fun text => !text.isEmpty

end Pattern

end Footage
