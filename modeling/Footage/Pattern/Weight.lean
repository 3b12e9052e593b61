import Footage.Pattern.Expr

/-!
# The size of patterns

A pattern that would take too much memory does not compile. What counts is the automaton that reads
the bytes of a text in UTF-8. Each of its states takes 32 bytes, and a state with several ways to go
on takes some more for each of them. Groups of bytes that begin alike share states.
-/

namespace Footage.Pattern

/-- The ranges of the bytes of some characters, byte by byte. -/
abbrev ByteRanges := List (Nat × Nat)

namespace ByteRanges

/-- The ranges of the digits, in base 64, of the numbers from `low` to `high`. The first argument is
the number of digits after the first one. -/
def ofNumbers : Nat → Nat → Nat → List ByteRanges
  | 0, low, high => [[(low, high)]]
  | k + 1, low, high =>
    let size := 64 ^ (k + 1)
    let first := low / size
    let last := high / size
    if first = last then (ofNumbers k (low % size) (high % size)).map ((first, first) :: ·)
    else
      -- Between the numbers with the first and with the last digit, all others are free.
      let front :=
        if low % size = 0 then []
        else (ofNumbers k (low % size) (size - 1)).map ((first, first) :: ·)
      let back :=
        if high % size + 1 = size then []
        else (ofNumbers k 0 (high % size)).map ((last, last) :: ·)
      let next := if front.isEmpty then first else first + 1
      let stop := if back.isEmpty then last + 1 else last
      let middle := if next < stop then [(next, stop - 1) :: List.replicate (k + 1) (0, 63)] else []
      front ++ middle ++ back

/-- The characters of one number of bytes: the first and the last of them, the number of bytes after
the first one, and what the first byte is marked with. -/
def planes : List (Nat × Nat × Nat × Nat) :=
  [(0, 0x7F, 0, 0), (0x80, 0x7FF, 1, 0xC0), (0x800, 0xD7FF, 2, 0xE0), (0xE000, 0xFFFF, 2, 0xE0),
    (0x10000, 0x10FFFF, 3, 0xF0)]

/-- The ranges of the bytes of the characters from `low` to `high`. -/
def ofRange (low high : Nat) : List ByteRanges :=
  planes.flatMap fun (first, last, more, mark) =>
    if max low first ≤ min high last then
      (ofNumbers more (max low first) (min high last)).map fun ranges =>
        ranges.modifyHead fun (low, high) => (mark + low, mark + high)
    else []

/-- How many bytes at the start of two characters have the same range. -/
def shared : ByteRanges → ByteRanges → Nat
  | range :: rest, other :: others => if range = other then shared rest others + 1 else 0
  | _, _ => 0

/-- The memory for some ranges of bytes after others. What they share with those just before them is
there already. -/
def weightAfter (before : ByteRanges) : List ByteRanges → Nat
  | [] => 0
  | ranges :: rest => 4 + 32 * (ranges.length - shared before ranges) + weightAfter ranges rest

end ByteRanges

/-- The memory for one character of a set. A single character takes a state for each of its bytes,
and so does no more than a list of them. -/
def CharSet.weight (set : CharSet) : Nat :=
  match set.flatMap fun (first, last) => ByteRanges.ofRange first last with
  | [] => 32
  | [ranges] =>
    if ranges.all fun (low, high) => low = high then 32 * ranges.length
    else if set.isAscii then 64 + 8 * set.length
    else 64 + ByteRanges.weightAfter [] [ranges]
  | all => if set.isAscii then 64 + 8 * set.length else 64 + ByteRanges.weightAfter [] all

namespace Expr

/-- Whether an expression chooses between others. -/
def isAlternate : Expr → Bool
  | alternate _ _ => true
  | _ => false

/-- The memory for an expression. A repetition holds a copy of its body for each time that the body
may come, the last of which is run through again if there is no limit. -/
def weight : Expr → Nat
  | empty | .look _ => 32
  | chars set => set.weight
  | capture _ body => body.weight + 64
  | concat left right => left.weight + right.weight
  | alternate left right =>
    left.weight + right.weight + if right.isAlternate then 4 else 72
  | repeated 0 none _ body => body.weight + if body.consumes then 40 else 112
  | repeated 0 (some 1) _ body => body.weight + 72
  | repeated (n + 1) none _ body => (n + 1) * body.weight + 40
  | repeated least (some most) _ body =>
    max 32 (least * body.weight) +
      if least < most then (most - least) * (body.weight + 40) + 32 else 0

end Expr

/-- The memory for what stands around every expression: the start of a match wherever it is, the
positions of the whole match, and its end. -/
def frameWeight : Nat := 208

/-- The memory that the automaton of a pattern may take. -/
def maxWeight : Nat := 10485760

end Footage.Pattern
