/-!
# Case runs

A case mapping moves whole runs of code points by one distance: every character, or every
second one, of a stretch of an alphabet. A mapping is a list of such runs.
-/

namespace Footage.Text

/-- The code points `first`, `first + step`, …, `last`, each mapped to itself plus `shift`. -/
structure CaseRun where
  first : Nat
  last : Nat
  step : Nat
  shift : Int
  deriving DecidableEq, Repr

namespace CaseRun

/-- Whether the run maps the code point. -/
def covers (run : CaseRun) (n : Nat) : Bool :=
  run.first ≤ n && n ≤ run.last && (n - run.first) % run.step == 0

/-- The image of a code point that the run covers. -/
def apply (run : CaseRun) (n : Nat) : Nat :=
  (n + run.shift).toNat

/-- The code points of the run, with their images. -/
def pairs (run : CaseRun) : List (Nat × Nat) :=
  (List.range ((run.last - run.first) / run.step + 1)).map fun i =>
    let n := run.first + i * run.step
    (n, run.apply n)

end CaseRun

/-- The image of a code point under the first run that covers it, or the code point itself.
The runs are in ascending order, so the search stops at the first one above it. -/
def mapCase : List CaseRun → Nat → Nat
  | [], n => n
  | run :: rest, n =>
    if n < run.first then n
    else if run.covers n then run.apply n
    else mapCase rest n

end Footage.Text
