import Footage.Text.Decimal

/-!
# Punycode

The encoding of international domain labels in ASCII. The characters outside ASCII are inserted
one after the other in ascending order; each insertion is written as a difference in a variable
number of digits of base 36, whose thresholds adapt to the differences seen so far.
-/

namespace Footage.Url.Punycode

/-- The digit of a value below 36. -/
def digit (value : Nat) : Char :=
  if value < 26 then Char.ofNat (97 + value) else Char.ofNat (22 + value)

/-- The value of a digit. -/
def digitValue? (c : Char) : Option Nat :=
  if 'a' ≤ c ∧ c ≤ 'z' then some (c.toNat - 97)
  else if 'A' ≤ c ∧ c ≤ 'Z' then some (c.toNat - 65)
  else if c.isDigit then some (c.toNat - 22)
  else none

/-- The threshold of the digit at position `k`, a multiple of 36. -/
def threshold (k bias : Nat) : Nat :=
  if k ≤ bias then 1 else if bias + 26 ≤ k then 26 else k - bias

/-- Divides the difference by 35 until it is small, counting positions. -/
def settle (delta k : Nat) : Nat × Nat :=
  if 455 < delta then settle (delta / 35) (k + 36) else (delta, k)
termination_by delta
decreasing_by omega

/-- The bias after a difference. -/
def adapt (delta count : Nat) (first : Bool) : Nat :=
  let delta := if first then delta / 700 else delta / 2
  let (delta, k) := settle (delta + delta / count) 0
  k + 36 * delta / (delta + 38)

/-- The digits of a difference. The first argument bounds their number. -/
def encodeDelta : Nat → Nat → Nat → Nat → List Char
  | 0, _, _, _ => []
  | fuel + 1, delta, k, bias =>
    let t := threshold k bias
    if delta < t then [digit delta]
    else digit (t + (delta - t) % (36 - t)) ::
      encodeDelta fuel ((delta - t) / (36 - t)) (k + 36) bias

/-- The state of the encoder. -/
structure Encoder where
  code : Nat := 128
  delta : Nat := 0
  bias : Nat := 72
  handled : Nat
  first : Bool := true
  output : List Char

/-- Handles one character of the label for the code point `n`. -/
def Encoder.visit (n : Nat) (state : Encoder) (c : Char) : Encoder :=
  if c.toNat < n then { state with delta := state.delta + 1 }
  else if c.toNat = n then
    { state with
      output := state.output ++ encodeDelta 40 state.delta 36 state.bias
      bias := adapt state.delta (state.handled + 1) state.first
      delta := 0
      handled := state.handled + 1
      first := false }
  else state

/-- Inserts the characters with each of the given code points. -/
def encodeFrom (label : List Char) : Encoder → List Nat → Encoder
  | state, [] => state
  | state, n :: rest =>
    let start := { state with delta := state.delta + (n - state.code) * (state.handled + 1) }
    let done := label.foldl (Encoder.visit n) start
    encodeFrom label { done with delta := done.delta + 1, code := n + 1 } rest

/-- The encoded form of a label, without the prefix that marks it. -/
def encode (label : List Char) : List Char :=
  let basic := label.filter fun c => c.toNat < 128
  let codes := ((label.map Char.toNat).filter (128 ≤ ·)).mergeSort.eraseDups
  let start := if basic.isEmpty then [] else basic ++ ['-']
  (encodeFrom label { handled := basic.length, output := start } codes).output

/-- Takes one difference off the front of the digits. -/
def takeDelta? : List Char → Nat → Nat → Nat → Nat → Option (Nat × List Char)
  | [], _, _, _, _ => none
  | c :: rest, sum, weight, k, bias => do
    let value ← digitValue? c
    let sum := sum + value * weight
    let t := threshold k bias
    if value < t then some (sum, rest)
    else takeDelta? rest sum (weight * (36 - t)) (k + 36) bias

/-- Inserts the characters that the digits describe. The first argument bounds their number. -/
def decodeFrom : Nat → List Char → Nat → Nat → Nat → Bool → List Char → Option (List Char)
  | _, [], _, _, _, _, output => some output
  | 0, _ :: _, _, _, _, _, _ => none
  | fuel + 1, c :: digits, code, position, bias, first, output => do
    let (sum, rest) ← takeDelta? (c :: digits) position 1 36 bias
    let count := output.length + 1
    let code := code + sum / count
    let place := sum % count
    if code > 0x10FFFF ∨ (0xD800 ≤ code ∧ code < 0xE000) then none
    else
      decodeFrom fuel rest code (place + 1) (adapt (sum - position) count first) false
        (output.take place ++ Char.ofNat code :: output.drop place)

/-- The label that an encoded form stands for. -/
def decode? (text : List Char) : Option (List Char) :=
  let tail := (text.reverse.takeWhile (· ≠ '-')).reverse
  let basic := text.take (text.length - tail.length - 1)
  if basic.all fun c => c.toNat < 128 then
    decodeFrom tail.length tail 128 0 72 true basic
  else none

end Footage.Url.Punycode
