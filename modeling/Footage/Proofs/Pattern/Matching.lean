import Footage.Proofs.Pattern.Whole
import Mathlib.Logic.Relation

/-!
# Matches of expressions

What the search for a pattern finds is a match of its expression. A thread that is accepted has gone
through the code of the expression from the first instruction to the last, in a number of steps that
each piece of code uses up in part. So what a piece of code does can be told from what its parts do,
whatever stands around it, and a loop is followed by induction on the steps that are left.

## Main definitions

* `Pattern.Stage`: the position in a text and the positions noted on the way there.
* `Pattern.Expr.Matches`: the stages between which an expression matches.
* `Pattern.Takes`: the characters that a match without captures goes past.
* `Pattern.Arrives`: a thread is accepted after a number of steps.
* `Pattern.Code.Follows`: a thread leaves some code at its end, where a relation leads.

## Main results

* `Pattern.exists_arrives_of_searchFrom`: what is found was noted by a thread that is accepted.
* `Pattern.Expr.follows_code`: the code of an expression leads where the expression matches.
* `Pattern.exists_matches_of_findFrom?`: what is found is a match of the expression.
-/

namespace Footage.Pattern

variable {program : Array Instr} {text : Array Char}

/-! ## What expressions match -/

/-- How far a match has come: a position in the text, and the positions noted on the way there. -/
structure Stage where
  position : Nat
  saved : List (Nat × Nat)

/-- The stages that a relation connects in a number of steps. -/
def Times (R : Stage → Stage → Prop) : Nat → Stage → Stage → Prop
  | 0 => Eq
  | n + 1 => Relation.Comp R (Times R n)

/-- The stages between which an expression matches, whatever the greed of its repetitions. -/
def Expr.Matches (text : Array Char) : Expr → Stage → Stage → Prop
  | empty => Eq
  | chars set => fun a b =>
    (∃ c, text[a.position]? = some c ∧ set.has c = true) ∧ b = ⟨a.position + 1, a.saved⟩
  | .look assertion => fun a b => assertion.holds (around text a.position) = true ∧ b = a
  | capture index body => fun a b => ∃ c,
    body.Matches text ⟨a.position, (2 * index, a.position) :: a.saved⟩ c ∧
      b = ⟨c.position, (2 * index + 1, c.position) :: c.saved⟩
  | concat left right => Relation.Comp (left.Matches text) (right.Matches text)
  | alternate left right => fun a b => left.Matches text a b ∨ right.Matches text a b
  | repeated least most _ body => fun a b => ∃ count,
    least ≤ count ∧ (∀ bound ∈ most, count ≤ max least bound) ∧ Times (body.Matches text) count a b

theorem times_add {R : Stage → Stage → Prop} {m n : Nat} {a b c : Stage} (hfirst : Times R m a b)
    (hlast : Times R n b c) : Times R (m + n) a c := by
  induction m generalizing a with
  | zero =>
    obtain rfl : a = b := hfirst
    rwa [Nat.zero_add]
  | succ m ih =>
    obtain ⟨next, hnext, hrest⟩ := hfirst
    rw [Nat.add_right_comm]
    exact ⟨next, hnext, ih hrest⟩

theorem times_one {R : Stage → Stage → Prop} {a b : Stage} (h : R a b) : Times R 1 a b :=
  ⟨b, h, rfl⟩

/-! ## What matches go past -/

section Takes

variable {a b c : Stage} {front back : List Char}

/-- A match without captures goes past some characters of a text. -/
def Takes (text : Array Char) (a : Stage) (chars : List Char) (b : Stage) : Prop :=
  b = ⟨a.position + chars.length, a.saved⟩ ∧ chars <+: text.toList.drop a.position

theorem takes_nil (a : Stage) : Takes text a [] a :=
  ⟨rfl, List.nil_prefix⟩

theorem Takes.append (hfront : Takes text a front b) (hback : Takes text b back c) :
    Takes text a (front ++ back) c := by
  obtain ⟨rfl, rest, hrest⟩ := hfront
  obtain ⟨rfl, hback⟩ := hback
  refine ⟨by rw [List.length_append, Nat.add_assoc], ?_⟩
  rw [← List.drop_drop, ← hrest, List.drop_left] at hback
  rwa [← hrest, List.prefix_append_right_inj]

/-- The text between two positions is what is taken from the first one to the second one. -/
theorem slice_of_prefix {start : Nat} (h : front <+: text.toList.drop start) :
    slice text start (start + front.length) = String.ofList front := by
  rw [slice, Array.toList_extract, List.extract_eq_take_drop, Nat.add_sub_cancel_left,
    ← List.prefix_iff_eq_take.1 h]

/-- A set takes one of its characters. -/
theorem exists_takes_of_chars {set : CharSet} (h : (Expr.chars set).Matches text a b) :
    ∃ c, set.has c = true ∧ Takes text a [c] b := by
  obtain ⟨⟨c, hc, hset⟩, rfl⟩ := h
  refine ⟨c, hset, rfl, ?_⟩
  rw [← Array.getElem?_toList] at hc
  rw [List.drop_eq_getElem?_toList_append, hc]
  exact List.prefix_append [c] _

/-- A repeated set takes one of its characters each time. -/
theorem exists_takes_of_times {set : CharSet} {n : Nat}
    (h : Times ((Expr.chars set).Matches text) n a b) :
    ∃ chars, chars.length = n ∧ (∀ c ∈ chars, set.has c = true) ∧ Takes text a chars b := by
  induction n generalizing a with
  | zero =>
    obtain rfl : a = b := h
    exact ⟨[], rfl, nofun, takes_nil a⟩
  | succ n ih =>
    obtain ⟨next, hfirst, hrest⟩ := h
    obtain ⟨c, hc, hnext⟩ := exists_takes_of_chars hfirst
    obtain ⟨chars, rfl, hchars, htakes⟩ := ih hrest
    exact ⟨c :: chars, rfl, List.forall_mem_cons.2 ⟨hc, hchars⟩, hnext.append htakes⟩

end Takes

/-! ## Threads that are accepted -/

/-- A stage at a place of a program. -/
def Stage.thread (stage : Stage) (place : Nat) : Thread :=
  ⟨place, stage.position, stage.saved⟩

/-- A thread is accepted after a number of steps, with some positions noted. -/
inductive Arrives (program : Array Instr) (text : Array Char) :
    Nat → Thread → List (Nat × Nat) → Prop where
  | accepted {thread : Thread} (h : step program text thread = .accepted) :
    Arrives program text 0 thread thread.saved
  | next {n : Nat} {thread other : Thread} {more : List Thread} {saved : List (Nat × Nat)}
    (h : step program text thread = .next more) (hmem : other ∈ more)
    (hrest : Arrives program text n other saved) : Arrives program text (n + 1) thread saved

/-- What a run finds was noted by one of its threads. -/
theorem exists_arrives_of_run {fuel : Nat} {threads : List Thread} {visited : Visited}
    {saved : List (Nat × Nat)} (h : (run program text fuel threads visited).1 = some saved) :
    ∃ thread ∈ threads, ∃ n, Arrives program text n thread saved := by
  induction fuel generalizing threads visited with
  | zero => cases h
  | succ fuel ih =>
    cases threads with
    | nil => cases h
    | cons thread threads =>
      rw [run] at h
      split at h
      · -- A thread that comes to a place entered before is left.
        obtain ⟨other, hother, harrives⟩ := ih h
        exact ⟨other, List.mem_cons_of_mem _ hother, harrives⟩
      · split at h
        next hstep =>
          obtain rfl := Option.some.inj h
          exact ⟨thread, List.mem_cons_self, 0, .accepted hstep⟩
        next more hstep =>
          obtain ⟨other, hother, n, harrives⟩ := ih h
          rcases List.mem_append.1 hother with hmore | hthreads
          · exact ⟨thread, List.mem_cons_self, n + 1, .next hstep hmore harrives⟩
          · exact ⟨other, List.mem_cons_of_mem _ hthreads, n, harrives⟩

/-- What a search finds was noted by a thread from one of the positions searched. -/
theorem exists_arrives_of_searchFrom {count position : Nat} {visited : Visited}
    {saved : List (Nat × Nat)}
    (h : searchFrom program text count position visited = some saved) :
    ∃ start, position ≤ start ∧ start < position + count ∧
      ∃ n, Arrives program text n ⟨0, start, []⟩ saved := by
  induction count generalizing position visited with
  | zero => cases h
  | succ count ih =>
    rw [searchFrom] at h
    split at h
    next hrun =>
      obtain rfl := Option.some.inj h
      obtain ⟨thread, hthread, harrives⟩ := exists_arrives_of_run (congrArg Prod.fst hrun)
      obtain rfl := List.mem_singleton.1 hthread
      exact ⟨position, Nat.le_refl _, by omega, harrives⟩
    next =>
      obtain ⟨start, hlow, hhigh, harrives⟩ := ih h
      exact ⟨start, by omega, by omega, harrives⟩

/-! ## Instructions -/

namespace Arrives

variable {n place : Nat} {a : Stage} {saved : List (Nat × Nat)}

/-- A thread that goes on is accepted because one that comes of it is. -/
theorem of_next {thread : Thread} {more : List Thread} (h : Arrives program text n thread saved)
    (hstep : step program text thread = .next more) :
    ∃ m < n, ∃ other ∈ more, Arrives program text m other saved := by
  cases h with
  | accepted haccepted => rw [hstep] at haccepted; cases haccepted
  | next hnext hmem hrest =>
    rw [hstep] at hnext
    cases hnext
    exact ⟨_, Nat.lt_succ_self _, _, hmem, hrest⟩

/-- Where only one thread comes of another one, it is accepted. -/
theorem of_one {thread other : Thread} (h : Arrives program text n thread saved)
    (hstep : step program text thread = .next [other]) :
    ∃ m < n, Arrives program text m other saved := by
  obtain ⟨m, hm, next, hnext, hrest⟩ := h.of_next hstep
  obtain rfl := List.mem_singleton.1 hnext
  exact ⟨m, hm, hrest⟩

/-- An instruction that goes on under a condition is passed only where the condition holds. -/
theorem of_ite {thread other : Thread} {holds : Bool} (h : Arrives program text n thread saved)
    (hstep : step program text thread = if holds then .next [other] else .next []) :
    holds = true ∧ ∃ m < n, Arrives program text m other saved := by
  cases holds with
  | true => exact ⟨rfl, h.of_one hstep⟩
  | false =>
    obtain ⟨_, -, _, hother, -⟩ := h.of_next hstep
    cases hother

variable (h : Arrives program text n (a.thread place) saved)

include h

theorem of_chars {set : CharSet} (hinstr : program[place]? = some (.chars set)) :
    ∃ m < n, ∃ b, (Expr.chars set).Matches text a b ∧
      Arrives program text m (b.thread (place + 1)) saved := by
  have hstep : step program text (a.thread place) =
      if (text[a.position]?).any set.has then
        .next [Stage.thread ⟨a.position + 1, a.saved⟩ (place + 1)]
      else .next [] := by
    rw [step, Stage.thread, hinstr]
    rfl
  obtain ⟨hchar, m, hm, hrest⟩ := h.of_ite hstep
  exact ⟨m, hm, _, ⟨(Option.any_eq_true _ _).1 hchar, rfl⟩, hrest⟩

theorem of_look {look : Look} (hinstr : program[place]? = some (.look look)) :
    ∃ m < n, (Expr.look look).Matches text a a ∧
      Arrives program text m (a.thread (place + 1)) saved := by
  have hstep : step program text (a.thread place) =
      if look.holds (around text a.position) then .next [a.thread (place + 1)] else .next [] := by
    rw [step, Stage.thread, hinstr]
    rfl
  obtain ⟨hholds, m, hm, hrest⟩ := h.of_ite hstep
  exact ⟨m, hm, ⟨hholds, rfl⟩, hrest⟩

theorem of_save {slot : Nat} (hinstr : program[place]? = some (.save slot)) :
    ∃ m < n, Arrives program text m
      (Stage.thread ⟨a.position, (slot, a.position) :: a.saved⟩ (place + 1)) saved := by
  apply h.of_one
  rw [step, Stage.thread, hinstr]
  rfl

theorem of_choose {first second : Nat} (hinstr : program[place]? = some (.choose first second)) :
    ∃ m < n, Arrives program text m (a.thread first) saved ∨
      Arrives program text m (a.thread second) saved := by
  have hstep : step program text (a.thread place) = .next [a.thread first, a.thread second] := by
    rw [step, Stage.thread, hinstr]
    rfl
  obtain ⟨m, hm, other, hother, hrest⟩ := h.of_next hstep
  rcases List.mem_cons.1 hother with rfl | hother
  · exact ⟨m, hm, .inl hrest⟩
  · obtain rfl := List.mem_singleton.1 hother
    exact ⟨m, hm, .inr hrest⟩

/-- Both ways of a choice are open, whichever is preferred. -/
theorem of_prefer {greedy : Bool} {more done : Nat}
    (hinstr : program[place]? = some (.prefer greedy more done)) :
    ∃ m < n, Arrives program text m (a.thread more) saved ∨
      Arrives program text m (a.thread done) saved := by
  cases greedy with
  | true => exact h.of_choose hinstr
  | false =>
    obtain ⟨m, hm, hrest⟩ := h.of_choose hinstr
    exact ⟨m, hm, hrest.symm⟩

theorem of_jump {target : Nat} (hinstr : program[place]? = some (.jump target)) :
    ∃ m < n, Arrives program text m (a.thread target) saved := by
  apply h.of_one
  rw [step, Stage.thread, hinstr]
  rfl

theorem of_accept (hinstr : program[place]? = some .accept) : saved = a.saved := by
  have hstep : step program text (a.thread place) = .accepted := by
    rw [step, Stage.thread, hinstr]
  cases h with
  | accepted => rfl
  | next hnext => rw [hstep] at hnext; cases hnext

end Arrives

/-! ## Code -/

section Code

variable {place : Nat} {instr : Instr} {front back : List Instr}

/-- Some code stands at a place of a program, whatever follows it. -/
def Stands (program : Array Instr) (place : Nat) (code : List Instr) : Prop :=
  ∃ rest, CodeAt program place (code ++ rest)

namespace Stands

theorem getElem? (h : Stands program place (instr :: back)) : program[place]? = some instr := by
  obtain ⟨rest, hcode⟩ := h
  exact hcode.getElem?

theorem tail (h : Stands program place (instr :: back)) : Stands program (place + 1) back := by
  obtain ⟨rest, hcode⟩ := h
  exact ⟨rest, hcode.tail⟩

theorem left (h : Stands program place (front ++ back)) : Stands program place front := by
  obtain ⟨rest, hcode⟩ := h
  exact ⟨back ++ rest, by rwa [← List.append_assoc]⟩

theorem right (h : Stands program place (front ++ back)) :
    Stands program (place + front.length) back := by
  induction front generalizing place with
  | nil => exact h
  | cons instr front ih =>
    rw [List.length_cons, Nat.add_comm front.length, ← Nat.add_assoc]
    exact ih h.tail

end Stands

end Code

namespace Code

/-- A thread that is accepted leaves some code at its end, where a relation leads, and the code uses
up a part of its steps. -/
def Follows (text : Array Char) (code : Code) (R : Stage → Stage → Prop) : Prop :=
  ∀ ⦃program : Array Instr⦄ ⦃place n : Nat⦄ ⦃a : Stage⦄ ⦃saved : List (Nat × Nat)⦄,
    Stands program place (code place) → Arrives program text n (a.thread place) saved →
      ∃ m ≤ n, ∃ b, R a b ∧
        Arrives program text m (b.thread (place + (code place).length)) saved

variable {first second body : Code} {R S : Stage → Stage → Prop} {greedy : Bool}

theorem follows_nil : Follows text (fun _ => []) Eq :=
  fun _ _ n a _ _ h => ⟨n, Nat.le_refl n, a, rfl, h⟩

theorem follows_append (hfirst : Follows text first R) (hsecond : Follows text second S) :
    Follows text (append first second) (Relation.Comp R S) := by
  intro program place n a saved hcode h
  obtain ⟨m, hm, b, hb, h⟩ := hfirst hcode.left h
  obtain ⟨l, hl, c, hc, h⟩ := hsecond hcode.right h
  refine ⟨l, Nat.le_trans hl hm, c, ⟨b, hb, hc⟩, ?_⟩
  rwa [append, List.length_append, ← Nat.add_assoc]

theorem follows_copies (hbody : Follows text body R) (count : Nat) :
    Follows text (copies body count) (Times R count) := by
  induction count with
  | zero => exact follows_nil
  | succ count ih => exact follows_append hbody ih

theorem follows_optional (hbody : Follows text body R) :
    Follows text (optional greedy body) fun a b => a = b ∨ R a b := by
  intro program place n a saved hcode h
  obtain ⟨m, hm, h | h⟩ := h.of_prefer hcode.getElem?
  · obtain ⟨l, hl, b, hb, h⟩ := hbody hcode.tail h
    refine ⟨l, by omega, b, .inr hb, ?_⟩
    rwa [optional, List.length_cons, Nat.add_comm _ 1, ← Nat.add_assoc]
  · exact ⟨m, Nat.le_of_lt hm, a, .inl rfl, h⟩

/-- The choice after each copy leads back to the first place, with fewer steps left. -/
theorem follows_onceOrMore (hbody : Follows text body R) :
    Follows text (onceOrMore greedy body) fun a b => ∃ count, 1 ≤ count ∧ Times R count a b := by
  intro program place n a saved hcode h
  induction n using Nat.strongRecOn generalizing a with
  | _ n ih =>
    obtain ⟨m, hm, b, hb, h⟩ := hbody hcode.left h
    obtain ⟨l, hl, h | h⟩ := h.of_prefer hcode.right.getElem?
    · obtain ⟨k, hk, c, ⟨count, -, hc⟩, h⟩ := ih l (by omega) h
      exact ⟨k, by omega, c, ⟨count + 1, by omega, b, hb, hc⟩, h⟩
    · refine ⟨l, by omega, b, ⟨1, Nat.le_refl 1, times_one hb⟩, ?_⟩
      rwa [onceOrMore, List.length_append, List.length_singleton, ← Nat.add_assoc]

/-- The jump after each copy leads back to the choice, with fewer steps left. -/
theorem follows_anyNumber (hbody : Follows text body R) :
    Follows text (anyNumber greedy body) fun a b => ∃ count, Times R count a b := by
  intro program place n a saved hcode h
  induction n using Nat.strongRecOn generalizing a with
  | _ n ih =>
    obtain ⟨m, hm, h | h⟩ := h.of_prefer hcode.getElem?
    · obtain ⟨l, hl, b, hb, h⟩ := hbody hcode.tail.left h
      obtain ⟨k, hk, h⟩ := h.of_jump hcode.tail.right.getElem?
      obtain ⟨i, hi, c, ⟨count, hc⟩, h⟩ := ih k (by omega) h
      exact ⟨i, by omega, c, ⟨count + 1, b, hb, hc⟩, h⟩
    · refine ⟨m, by omega, a, ⟨0, rfl⟩, ?_⟩
      simpa [anyNumber, ← Nat.add_assoc] using h

/-- All the choices to stop lead to the end of the last copy. -/
theorem follows_upTo (hbody : Follows text body R) {count place stop n : Nat} {a : Stage}
    {saved : List (Nat × Nat)} (hstop : stop = place + (upTo greedy body stop count place).length)
    (hcode : Stands program place (upTo greedy body stop count place))
    (h : Arrives program text n (a.thread place) saved) :
    ∃ m ≤ n, ∃ b, (∃ times ≤ count, Times R times a b) ∧
      Arrives program text m (b.thread stop) saved := by
  induction count generalizing place n a with
  | zero =>
    obtain rfl : stop = place := hstop
    exact ⟨n, Nat.le_refl n, a, ⟨0, Nat.le_refl 0, rfl⟩, h⟩
  | succ count ih =>
    simp only [upTo, append, List.length_cons, List.length_append] at hstop
    obtain ⟨m, hm, h | h⟩ := h.of_prefer hcode.getElem?
    · obtain ⟨l, hl, b, hb, h⟩ := hbody hcode.tail.left h
      obtain ⟨k, hk, c, ⟨times, htimes, hc⟩, h⟩ := ih (by omega) hcode.tail.right h
      exact ⟨k, by omega, c, ⟨times + 1, Nat.succ_le_succ htimes, b, hb, hc⟩, h⟩
    · exact ⟨m, Nat.le_of_lt hm, a, ⟨0, Nat.zero_le _, rfl⟩, h⟩

/-! ## The length of code -/

/-- The length of some code does not depend on where it is placed. -/
def IsMovable (code : Code) : Prop :=
  ∀ place, (code place).length = code.size

theorem isMovable_of_forall {n : Nat} (h : ∀ place, (first place).length = n) :
    IsMovable first := by
  intro place
  rw [size, h, h]

theorem length_append (hfirst : IsMovable first) (hsecond : IsMovable second) (place : Nat) :
    (append first second place).length = first.size + second.size := by
  rw [append, List.length_append, hfirst, hsecond]

theorem length_copies (hbody : IsMovable body) (count place : Nat) :
    (copies body count place).length = count * body.size := by
  induction count generalizing place with
  | zero => rw [copies, List.length_nil, Nat.zero_mul]
  | succ count ih =>
    rw [copies, append, List.length_append, hbody, ih, Nat.succ_mul, Nat.add_comm]

theorem length_upTo (hbody : IsMovable body) (stop count place : Nat) :
    (upTo greedy body stop count place).length = count * (body.size + 1) := by
  induction count generalizing place with
  | zero => rw [upTo, List.length_nil, Nat.zero_mul]
  | succ count ih =>
    simp only [upTo, append, List.length_cons, List.length_append, hbody _, ih]
    rw [Nat.succ_mul]
    omega

theorem length_onceOrMore (hbody : IsMovable body) (place : Nat) :
    (onceOrMore greedy body place).length = body.size + 1 := by
  rw [onceOrMore, List.length_append, hbody, List.length_singleton]

theorem length_anyNumber (hbody : IsMovable body) (place : Nat) :
    (anyNumber greedy body place).length = body.size + 2 := by
  rw [anyNumber, List.length_cons, List.length_append, hbody, List.length_singleton]

theorem length_optional (hbody : IsMovable body) (place : Nat) :
    (optional greedy body place).length = body.size + 1 := by
  rw [optional, List.length_cons, hbody]

end Code

namespace Expr

open Code

theorem isMovable_code (expr : Expr) : IsMovable expr.code := by
  induction expr with
  | empty => exact fun _ => rfl
  | chars => exact fun _ => rfl
  | look => exact fun _ => rfl
  | capture index body ih =>
    refine isMovable_of_forall (n := body.code.size + 2) fun place => ?_
    rw [code, List.length_cons, List.length_append, ih, List.length_singleton]
  | concat left right hleft hright =>
    exact isMovable_of_forall (length_append hleft hright)
  | alternate left right hleft hright =>
    refine isMovable_of_forall (n := left.code.size + right.code.size + 2) fun place => ?_
    simp only [code, List.length_cons, List.length_append, hleft _, hright _]
    omega
  | repeated least most greedy body ih =>
    rcases most with _ | most
    · cases least with
      | zero =>
        rw [code]
        split
        · exact isMovable_of_forall (length_anyNumber ih)
        · exact isMovable_of_forall
            (length_optional (isMovable_of_forall (length_onceOrMore ih)))
      | succ least =>
        rw [code]
        exact isMovable_of_forall (length_append (isMovable_of_forall (length_copies ih _))
          (isMovable_of_forall (length_onceOrMore ih)))
    · refine isMovable_of_forall
        (n := least * body.code.size + (most - least) * (body.code.size + 1)) fun place => ?_
      simp only [code, append, List.length_append, length_copies ih, length_upTo ih]

/-! ## Expressions -/

variable {left right body : Expr} {R S : Stage → Stage → Prop}

/-- The first alternative ends with a jump over the second one. -/
theorem follows_alternate (hleft : Follows text left.code R) (hright : Follows text right.code S) :
    Follows text (alternate left right).code fun a b => R a b ∨ S a b := by
  intro program place n a saved hcode h
  have hend : place + ((alternate left right).code place).length =
      place + (left.code (place + 1)).length +
        (right.code (place + (left.code (place + 1)).length + 2)).length + 2 := by
    simp only [code, List.length_cons, List.length_append]
    omega
  rw [hend]
  obtain ⟨m, hm, h | h⟩ := h.of_choose hcode.getElem?
  · obtain ⟨l, hl, b, hb, h⟩ := hleft hcode.tail.left h
    obtain ⟨k, hk, h⟩ := h.of_jump hcode.tail.right.getElem?
    exact ⟨k, by omega, b, .inl hb, h⟩
  · have hback := hcode.tail.right.tail
    rw [show place + 1 + (left.code (place + 1)).length + 1 =
      place + (left.code (place + 1)).length + 2 by omega] at hback
    obtain ⟨l, hl, b, hb, h⟩ := hright hback h
    refine ⟨l, by omega, b, .inr hb, ?_⟩
    convert h using 2
    omega

/-- The place where a bounded repetition ends is told from the size of the code. -/
theorem follows_bounded (hbody : Follows text body.code R) (least most : Nat) (greedy : Bool) :
    Follows text (repeated least (some most) greedy body).code fun a b =>
      ∃ count, least ≤ count ∧ count ≤ max least most ∧ Times R count a b := by
  intro program place n a saved hcode h
  simp only [code, append] at hcode ⊢
  obtain ⟨m, hm, b, hb, h⟩ := follows_copies hbody least hcode.left h
  have hstop : place + least * body.code.size + (most - least) * (body.code.size + 1) =
      place + (copies body.code least place).length + (upTo greedy body.code
        (place + least * body.code.size + (most - least) * (body.code.size + 1)) (most - least)
        (place + (copies body.code least place).length)).length := by
    rw [length_copies (isMovable_code body), length_upTo (isMovable_code body)]
  obtain ⟨l, hl, c, ⟨count, hcount, hc⟩, h⟩ := follows_upTo hbody hstop hcode.right h
  refine ⟨l, by omega, c, ⟨least + count, by omega, by omega, times_add hb hc⟩, ?_⟩
  rwa [List.length_append, ← Nat.add_assoc, ← hstop]

/-- The code of an expression leads where the expression matches. -/
theorem follows_code (expr : Expr) : Follows text expr.code (expr.Matches text) := by
  induction expr with
  | empty => exact follows_nil
  | chars set =>
    intro program place n a saved hcode h
    obtain ⟨m, hm, b, hb, h⟩ := h.of_chars hcode.getElem?
    exact ⟨m, Nat.le_of_lt hm, b, hb, h⟩
  | look assertion =>
    intro program place n a saved hcode h
    obtain ⟨m, hm, ha, h⟩ := h.of_look hcode.getElem?
    exact ⟨m, Nat.le_of_lt hm, a, ha, h⟩
  | capture index body ih =>
    intro program place n a saved hcode h
    obtain ⟨m, hm, h⟩ := h.of_save hcode.getElem?
    obtain ⟨l, hl, b, hb, h⟩ := ih hcode.tail.left h
    obtain ⟨k, hk, h⟩ := h.of_save hcode.tail.right.getElem?
    refine ⟨k, by omega, _, ⟨b, hb, rfl⟩, ?_⟩
    simpa [code, Nat.add_assoc, Nat.add_comm 1] using h
  | concat left right hleft hright => exact follows_append hleft hright
  | alternate left right hleft hright => exact follows_alternate hleft hright
  | repeated least most greedy body ih =>
    rcases most with _ | most
    · cases least with
      | zero =>
        rw [code]
        split
        · intro program place n a saved hcode h
          obtain ⟨m, hm, b, ⟨count, hb⟩, h⟩ := follows_anyNumber ih hcode h
          exact ⟨m, hm, b, ⟨count, Nat.zero_le _, nofun, hb⟩, h⟩
        · -- A body that may match nothing is run at least once, or skipped as a whole.
          intro program place n a saved hcode h
          obtain ⟨m, hm, b, rfl | ⟨count, -, hb⟩, h⟩ :=
            follows_optional (follows_onceOrMore ih) hcode h
          · exact ⟨m, hm, a, ⟨0, Nat.zero_le _, nofun, rfl⟩, h⟩
          · exact ⟨m, hm, b, ⟨count, Nat.zero_le _, nofun, hb⟩, h⟩
      | succ least =>
        -- The last of the passes that must be made is the one that may be made again.
        intro program place n a saved hcode h
        obtain ⟨m, hm, c, ⟨b, hb, count, hcount, hc⟩, h⟩ :=
          follows_append (follows_copies ih least) (follows_onceOrMore ih) hcode h
        exact ⟨m, hm, c, ⟨least + count, by omega, nofun, times_add hb hc⟩, h⟩
    · intro program place n a saved hcode h
      obtain ⟨m, hm, b, ⟨count, hleast, hmost, hb⟩, h⟩ :=
        follows_bounded ih least most greedy hcode h
      refine ⟨m, hm, b, ⟨count, hleast, ?_, hb⟩, h⟩
      rintro bound ⟨⟩
      exact hmost

end Expr

/-! ## Searches -/

/-- What a search for the program of an expression finds is a match of the expression. -/
theorem exists_matches_of_findFrom? {pattern : Pattern} {expr : Expr} {position : Nat}
    {found : Match} (hprogram : pattern.program = expr.program)
    (h : pattern.findFrom? text position = some found) :
    ∃ start stop saved, position ≤ start ∧ start ≤ text.size ∧
      expr.Matches text ⟨start, [(0, start)]⟩ ⟨stop, saved⟩ ∧
      found = .ofSaved text pattern.groupCount ((1, stop) :: saved) := by
  obtain ⟨noted, hsearch, rfl⟩ := Option.map_eq_some_iff.1 h
  obtain ⟨start, hlow, hhigh, n, harrives⟩ := exists_arrives_of_searchFrom hsearch
  have hcode : Stands pattern.program 0 (.save 0 :: (expr.code 1 ++ [.save 1, .accept])) :=
    ⟨[], by rw [hprogram, CodeAt, List.append_nil]; rfl⟩
  -- The thread goes through the code of the expression between the first two slots.
  obtain ⟨m, -, harrives⟩ := Arrives.of_save (a := ⟨start, []⟩) harrives hcode.getElem?
  obtain ⟨l, -, stage, hmatches, harrives⟩ := expr.follows_code hcode.tail.left harrives
  obtain ⟨k, -, harrives⟩ := harrives.of_save hcode.tail.right.getElem?
  obtain rfl := harrives.of_accept hcode.tail.right.tail.getElem?
  exact ⟨start, stage.position, stage.saved, hlow, by omega, hmatches, rfl⟩

end Footage.Pattern
