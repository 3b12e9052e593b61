import Footage.Pattern.Program

/-!
# Searching for matches

The search runs a program from each position of a text in turn. It follows preferred choices
first and never enters one instruction twice at one position, since the second visit cannot
succeed where the first has failed. So it takes time linear in the text.
-/

namespace Footage.Pattern

open Text

/-- The character at a position and the one before it. -/
structure Around where
  before : Option Char
  after : Option Char
  deriving DecidableEq, Repr

/-- What stands around a position of a text. -/
def around (text : Array Char) (at_ : Nat) : Around :=
  ⟨if at_ = 0 then none else text[at_ - 1]?, text[at_]?⟩

/-- Whether a position lies at a word as required, given whether word characters stand before
and after it. -/
def WordSide.holds (before after : Bool) : WordSide → Bool
  | .edge => before != after
  | .apart => before == after
  | .start => !before && after
  | .finish => before && !after
  | .startHalf => !before
  | .finishHalf => !after

/-- Whether an assertion holds at a position. -/
def Look.holds (around : Around) : Look → Bool
  | textStart => around.before.isNone
  | textEnd => around.after.isNone
  | lineStart => around.before.all (· = '\n')
  | lineEnd => around.after.all (· = '\n')
  | lineStartCrlf =>
    match around.before with
    | none | some '\n' => true
    | some '\r' => around.after ≠ some '\n'
    | _ => false
  | lineEndCrlf =>
    match around.after with
    | none | some '\r' => true
    | some '\n' => around.before ≠ some '\r'
    | _ => false
  | word ascii side =>
    let isWord (c : Char) : Bool :=
      if ascii then c.isAlphanum || c == '_' else isWordChar c
    side.holds (around.before.any isWord) (around.after.any isWord)

/-- A place in the program and in the text, with the positions noted on the way there, the last
one first. -/
structure Thread where
  place : Nat
  position : Nat
  saved : List (Nat × Nat) := []

/-- The places where instructions were entered: for each position the bits of the instructions
that were entered there. -/
abbrev Visited := Array Nat

namespace Visited

/-- Nothing was entered in a text of a given length. -/
def start (length : Nat) : Visited :=
  Array.replicate (length + 1) 0

/-- Whether the place of a thread was entered. -/
def has (visited : Visited) (thread : Thread) : Bool :=
  (visited.getD thread.position 0).testBit thread.place

/-- The places with that of a thread. -/
def insert (visited : Visited) (thread : Thread) : Visited :=
  visited.modify thread.position fun row => row ||| (1 <<< thread.place)

end Visited

/-- What comes of a thread. -/
inductive Progress where
  | accepted
  | next (threads : List Thread)

/-- Runs one instruction of a thread. -/
def step (program : Array Instr) (text : Array Char) (thread : Thread) : Progress :=
  match program[thread.place]? with
  | some .accept => .accepted
  | some (.chars set) =>
    if (text[thread.position]?).any set.has then
      .next [⟨thread.place + 1, thread.position + 1, thread.saved⟩]
    else .next []
  | some (.look look) =>
    if look.holds (around text thread.position) then
      .next [{ thread with place := thread.place + 1 }]
    else .next []
  | some (.save slot) =>
    .next [{ thread with
      place := thread.place + 1, saved := (slot, thread.position) :: thread.saved }]
  | some (.choose preferred other) =>
    .next [{ thread with place := preferred }, { thread with place := other }]
  | some (.jump target) => .next [{ thread with place := target }]
  | none => .next []

/-- Runs threads in their order of preference until one is accepted. The first argument bounds
the number of steps. -/
def run (program : Array Instr) (text : Array Char) :
    Nat → List Thread → Visited → Option (List (Nat × Nat)) × Visited
  | 0, _, visited | _, [], visited => (none, visited)
  | fuel + 1, thread :: threads, visited =>
    if visited.has thread then run program text fuel threads visited
    else
      match step program text thread with
      | .accepted => (some thread.saved, visited)
      | .next more => run program text fuel (more ++ threads) (visited.insert thread)

/-- A bound on the steps of a run. Each instruction is entered at most once at each position, and
leaves at most two threads. -/
def runFuel (program : Array Instr) (text : Array Char) : Nat :=
  2 * program.size * (text.size + 1) + 1

/-- The positions noted by the first match that starts at one of a number of positions. -/
def searchFrom (program : Array Instr) (text : Array Char) :
    Nat → Nat → Visited → Option (List (Nat × Nat))
  | 0, _, _ => none
  | count + 1, position, visited =>
    match run program text (runFuel program text) [⟨0, position, []⟩] visited with
    | (some saved, _) => some saved
    | (none, visited) => searchFrom program text count (position + 1) visited

/-- A match of a pattern: where it starts and stops, and the text of each group that took part
in it. The first group is the whole match. -/
structure Match where
  start : Nat
  stop : Nat
  groups : List (Option String)
  deriving DecidableEq, Repr

/-- The position in a slot. -/
def slot? (saved : List (Nat × Nat)) (slot : Nat) : Option Nat :=
  (saved.find? fun (other, _) => other = slot).map Prod.snd

/-- The text between two positions. -/
def slice (text : Array Char) (start stop : Nat) : String :=
  String.ofList (text.extract start stop).toList

/-- The match that noted positions describe. -/
def Match.ofSaved (text : Array Char) (groups : Nat) (saved : List (Nat × Nat)) : Match :=
  { start := (slot? saved 0).getD 0
    stop := (slot? saved 1).getD 0
    groups := (List.range (groups + 1)).map fun index => do
      return slice text (← slot? saved (2 * index)) (← slot? saved (2 * index + 1)) }

end Footage.Pattern
