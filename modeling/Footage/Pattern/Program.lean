import Footage.Pattern.Expr

/-!
# Pattern programs

An expression becomes a list of instructions. A choice names the instruction to prefer and the
one to fall back on, so the order in which a search tries them gives the preferred match.
-/

namespace Footage.Pattern

/-- An instruction. After an instruction that names no other, the next one follows. -/
inductive Instr where
  /-- Goes past one character of a set. -/
  | chars (set : CharSet)
  /-- Goes on if an assertion holds. -/
  | look (look : Look)
  /-- Notes the position in a slot. -/
  | save (slot : Nat)
  | choose (preferred other : Nat)
  | jump (target : Nat)
  | accept
  deriving DecidableEq, Repr

/-- A choice of going on at one place in preference to another, or the other way round. -/
def Instr.prefer (greedy : Bool) (more done : Nat) : Instr :=
  if greedy then .choose more done else .choose done more

/-- Code that can be placed at any address. -/
abbrev Code := Nat → List Instr

namespace Code

/-- One piece of code after another. -/
def append (first second : Code) : Code := fun start =>
  let code := first start
  code ++ second (start + code.length)

/-- A number of copies one after the other. -/
def copies (body : Code) : Nat → Code
  | 0 => fun _ => []
  | n + 1 => append body (copies body n)

/-- The number of instructions of some code. -/
def size (body : Code) : Nat :=
  (body 0).length

/-- At most a number of copies, with a choice to stop before each of them. All the choices to
stop lead to one place. -/
def upTo (greedy : Bool) (body : Code) (stop : Nat) : Nat → Code
  | 0 => fun _ => []
  | n + 1 => fun start =>
    .prefer greedy (start + 1) stop ::
      append body (upTo greedy body stop n) (start + 1)

/-- Any number of copies, at least one. -/
def onceOrMore (greedy : Bool) (body : Code) : Code := fun start =>
  let code := body start
  code ++ [.prefer greedy start (start + code.length + 1)]

/-- Any number of copies of code that always goes past a character. -/
def anyNumber (greedy : Bool) (body : Code) : Code := fun start =>
  let code := body (start + 1)
  .prefer greedy (start + 1) (start + code.length + 2) :: (code ++ [.jump start])

/-- At most one copy. -/
def optional (greedy : Bool) (body : Code) : Code := fun start =>
  let code := body (start + 1)
  .prefer greedy (start + 1) (start + code.length + 1) :: code

end Code

namespace Expr

open Code

/-- The code of an expression. Code that may match the empty text is repeated with the choice
after each copy, for only then does an empty copy end the repetition. -/
def code : Expr → Code
  | empty => fun _ => []
  | chars set => fun _ => [.chars set]
  | .look position => fun _ => [.look position]
  | capture index body => fun start =>
    .save (2 * index) :: (body.code (start + 1) ++ [.save (2 * index + 1)])
  | concat left right => append left.code right.code
  | alternate left right => fun start =>
    let first := left.code (start + 1)
    let second := right.code (start + first.length + 2)
    .choose (start + 1) (start + first.length + 2) ::
      (first ++ .jump (start + first.length + second.length + 2) :: second)
  | repeated 0 none greedy body =>
    if body.consumes then anyNumber greedy body.code
    else optional greedy (onceOrMore greedy body.code)
  | repeated (n + 1) none greedy body =>
    append (copies body.code n) (onceOrMore greedy body.code)
  | repeated least (some most) greedy body => fun start =>
    let bodySize := size body.code
    append (copies body.code least)
      (upTo greedy body.code (start + least * bodySize + (most - least) * (bodySize + 1))
        (most - least)) start

end Expr

/-- The program of an expression: the whole match is kept in the first two slots. -/
def Expr.program (expr : Expr) : Array Instr :=
  (Instr.save 0 :: (expr.code 1 ++ [.save 1, .accept])).toArray

end Footage.Pattern
