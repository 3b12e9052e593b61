import Footage.Pattern.PropertyName
import Footage.Pattern.Syntax
import Footage.Text.DecimalDigit
import Footage.Text.WordChar

/-!
# The meaning of patterns

An expression says what a written pattern matches once its flags are resolved: which characters,
in which order of preference, and with which captures.
-/

namespace Footage.Pattern

open Text

/-- An assertion about a position, with the flags resolved. -/
inductive Look where
  | textStart
  | textEnd
  | lineStart
  | lineEnd
  /-- A line start where a carriage return also ends lines. -/
  | lineStartCrlf
  /-- A line end where a carriage return also ends lines. -/
  | lineEndCrlf
  /-- A position at a word of Unicode or of ASCII. -/
  | word (ascii : Bool) (side : WordSide)
  deriving DecidableEq, Repr

/-- What a pattern matches. -/
inductive Expr where
  | empty
  | chars (set : CharSet)
  | look (look : Look)
  | capture (index : Nat) (body : Expr)
  | concat (left right : Expr)
  | alternate (left right : Expr)
  | repeated (least : Nat) (most : Option Nat) (greedy : Bool) (body : Expr)
  deriving DecidableEq, Repr

namespace Expr

/-- Whether every match is empty. -/
def isEmptyOnly : Expr → Bool
  | empty | look _ => true
  | chars _ => false
  | capture _ body => body.isEmptyOnly
  | concat left right | alternate left right => left.isEmptyOnly && right.isEmptyOnly
  | repeated _ _ _ body => body.isEmptyOnly

/-- Whether every match is known to hold a character. -/
def consumes : Expr → Bool
  | empty | look _ => false
  | chars _ => true
  | capture _ body => body.consumes
  | concat left right => left.consumes || right.consumes
  | alternate left right => left.consumes && right.consumes
  | repeated least _ _ body => 0 < least && body.consumes

/-- The largest index of a capture in the expression, or zero. -/
def captures : Expr → Nat
  | empty | look _ | chars _ => 0
  | capture index body => max index body.captures
  | concat left right | alternate left right => max left.captures right.captures
  | repeated _ _ _ body => body.captures

/-- A repetition in its simplest form: what can only match the empty text is repeated at most
once, and no repetition at all matches the empty text. -/
def repeatOf (least : Nat) (most : Option Nat) (greedy : Bool) (body : Expr) : Expr :=
  let once := body.isEmptyOnly
  let least := if once then min least 1 else least
  let most := if once then some ((most.map (min 1)).getD 1) else most
  if least = 0 ∧ most = some 0 then empty
  else if least = 1 ∧ most = some 1 then body
  else repeated least most greedy body

end Expr

/-- The flags that are on. -/
structure Flags where
  ignoreCase : Bool := false
  multiLine : Bool := false
  dotAll : Bool := false
  swapGreed : Bool := false
  unicode : Bool := true
  crlf : Bool := false
  deriving DecidableEq, Repr

namespace Flags

/-- The flags after one switch. -/
def switch (flags : Flags) (flag : Flag) (on : Bool) : Flags :=
  match flag with
  | .ignoreCase => { flags with ignoreCase := on }
  | .multiLine => { flags with multiLine := on }
  | .dotAll => { flags with dotAll := on }
  | .swapGreed => { flags with swapGreed := on }
  | .unicode => { flags with unicode := on }
  | .crlf => { flags with crlf := on }
  | .verbose => flags

/-- The flags after a change. -/
def apply (flags : Flags) (change : FlagChange) : Flags :=
  change.foldl (fun flags (flag, on) => flags.switch flag on) flags

/-- A set with the other cases of its characters, if case is ignored. -/
def close (flags : Flags) (set : CharSet) : CharSet :=
  if !flags.ignoreCase then set
  else if flags.unicode then set.closeCase
  else set.closeAsciiCase

/-- A set or, if it is negated, its complement. Without the Unicode flag, no set may hold
characters beyond ASCII. -/
def negate? (flags : Flags) (negated : Bool) (set : CharSet) : Option CharSet :=
  let set := if negated then set.complement else set
  if flags.unicode || set.isAscii then some set else none

end Flags

/-- The characters of an ASCII class. -/
def asciiClass? : String → Option CharSet
  | "alnum" => some [(0x30, 0x39), (0x41, 0x5A), (0x61, 0x7A)]
  | "alpha" => some [(0x41, 0x5A), (0x61, 0x7A)]
  | "ascii" => some [(0, 0x7F)]
  | "blank" => some [(0x09, 0x09), (0x20, 0x20)]
  | "cntrl" => some [(0, 0x1F), (0x7F, 0x7F)]
  | "digit" => some [(0x30, 0x39)]
  | "graph" => some [(0x21, 0x7E)]
  | "lower" => some [(0x61, 0x7A)]
  | "print" => some [(0x20, 0x7E)]
  | "punct" => some [(0x21, 0x2F), (0x3A, 0x40), (0x5B, 0x60), (0x7B, 0x7E)]
  | "space" => some [(0x09, 0x0D), (0x20, 0x20)]
  | "upper" => some [(0x41, 0x5A)]
  | "word" => some [(0x30, 0x39), (0x41, 0x5A), (0x5F, 0x5F), (0x61, 0x7A)]
  | "xdigit" => some [(0x30, 0x39), (0x41, 0x46), (0x61, 0x66)]
  | _ => none

/-- The characters of a named class. -/
def NamedClass.set? (flags : Flags) (negated : Bool) : NamedClass → Option CharSet
  | .digit => flags.negate? negated (if flags.unicode then decimalDigitRanges else [(0x30, 0x39)])
  | .space =>
    flags.negate? negated (if flags.unicode then blankSet else [(0x09, 0x0D), (0x20, 0x20)])
  | .word =>
    if flags.unicode then flags.negate? negated wordRanges
    else (asciiClass? "word").bind (flags.negate? negated)
  | .ascii name => do flags.negate? negated (flags.close (← asciiClass? name))
  | .property name =>
    if flags.unicode then do flags.negate? negated (flags.close (← property? name)) else none

/-- The characters between two others. -/
def Flags.range? (flags : Flags) (first last : Char) : Option CharSet :=
  flags.negate? false [(first.toNat, last.toNat)]

/-- The characters of an item of a class. -/
def ClassItem.set? (flags : Flags) : ClassItem → Option CharSet
  | .empty => some []
  | .literal c => flags.range? c c
  | .range first last => flags.range? first last
  | .named negated name => name.set? flags negated
  | .union left right => do return CharSet.union (← left.set? flags) (← right.set? flags)
  | .combined op left right => do
    let left := flags.close (← left.set? flags)
    let right := flags.close (← right.set? flags)
    return match op with
      | .inter => left.inter right
      | .diff => left.diff right
      | .symmDiff => left.symmDiff right
  | .bracketed negated item => do
    flags.negate? negated (flags.close (← item.set? flags))

/-- The meaning of an assertion. -/
def Anchor.look (flags : Flags) : Anchor → Look
  | .textStart => .textStart
  | .textEnd => .textEnd
  | .lineStart =>
    if !flags.multiLine then .textStart else if flags.crlf then .lineStartCrlf else .lineStart
  | .lineEnd =>
    if !flags.multiLine then .textEnd else if flags.crlf then .lineEndCrlf else .lineEnd
  | .word side => .word (!flags.unicode) side

namespace Syntax

/-- The meaning of a written pattern, and the flags that are on after it. A change of flags lasts
to the end of its group. -/
def resolve? (flags : Flags) : Syntax → Option (Expr × Flags)
  | empty => some (.empty, flags)
  | .flags change => some (.empty, flags.apply change)
  | literal c => some (.chars (flags.close (CharSet.single c)), flags)
  | byte c =>
    if flags.unicode || c.toNat < 128 then
      some (.chars (flags.close (CharSet.single c)), flags)
    else none
  | dot =>
    if !flags.unicode then none
    else if flags.dotAll then some (.chars CharSet.full, flags)
    else if flags.crlf then
      some (.chars (CharSet.complement [(0x0A, 0x0A), (0x0D, 0x0D)]), flags)
    else some (.chars (CharSet.complement [(0x0A, 0x0A)]), flags)
  | .anchor position => some (.look (position.look flags), flags)
  | named negated name => do return (.chars (← name.set? flags negated), flags)
  | bracketed negated item => do
    return (.chars (← (ClassItem.bracketed negated item).set? flags), flags)
  | repeated least most greedy body => do
    let (body, flags) ← body.resolve? flags
    return (.repeatOf least most (greedy != flags.swapGreed) body, flags)
  | capture index body => do
    let (body, _) ← body.resolve? flags
    return (.capture index body, flags)
  | group change body => do
    let (body, _) ← body.resolve? (flags.apply change)
    return (body, flags)
  | concat left right => do
    let (left, flags) ← left.resolve? flags
    let (right, flags) ← right.resolve? flags
    return (.concat left right, flags)
  | alternate left right => do
    let (left, flags) ← left.resolve? flags
    let (right, flags) ← right.resolve? flags
    return (.alternate left right, flags)

end Syntax

end Footage.Pattern
