import Footage.Pattern
import Mathlib.Data.List.Forall2
import Mathlib.Tactic.SplitIfs

/-!
# Patterns of whole texts

A pattern that begins at the start of a text, goes past one character of each of some sets and ends
at the end of the text has a program without choices. From the start of the text, its search is a
single thread that enters each instruction once; from any other position it stops at the first
assertion. So the pattern is in the texts that have as many characters as there are sets, each from
its set.

## Main definitions

* `Pattern.Fits`: one character of each set.
* `Pattern.wholeCode`: the code of such a pattern.
* `Pattern.Visited.IsClearFrom`: what keeps the thread from being stopped at a place it has entered.

## Main results

* `Pattern.isSome_run_iff`: the thread that starts at any of the sets.
* `Pattern.searchFrom_of_textStart`: only the start of a text matters.
* `Pattern.isIn_iff_fits`: the texts that such a pattern is in.
-/

namespace Footage.Pattern

variable {program : Array Instr} {text : Array Char} {thread : Thread} {visited : Visited}
  {instr : Instr} {code : List Instr} {place position fuel : Nat}

/-! ## Characters of sets -/

section Fits

variable {text : List Char} {set : CharSet} {sets others : List CharSet}

/-- A text has one character of each set, in their order. -/
def Fits (text : List Char) (sets : List CharSet) : Prop :=
  List.Forall₂ (fun c set => CharSet.has set c = true) text sets

theorem fits_nil_iff : Fits text [] ↔ text = [] :=
  List.forall₂_nil_right_iff

theorem not_fits_nil_cons : ¬Fits [] (set :: sets) :=
  nofun

theorem fits_cons_iff {c : Char} :
    Fits (c :: text) (set :: sets) ↔ set.has c = true ∧ Fits text sets :=
  List.forall₂_cons

/-- What has the characters of two lists of sets has two parts. -/
theorem fits_append_iff : Fits text (sets ++ others) ↔
    ∃ front rest, text = front ++ rest ∧ Fits front sets ∧ Fits rest others := by
  constructor
  · intro h
    exact ⟨text.take sets.length, text.drop sets.length, (List.take_append_drop _ _).symm,
      List.forall₂_take_append _ _ _ h, List.forall₂_drop_append _ _ _ h⟩
  · rintro ⟨front, rest, rfl, hfront, hrest⟩
    exact List.rel_append hfront hrest

theorem fits_replicate_iff {n : Nat} : Fits text (List.replicate n set) ↔
    text.length = n ∧ ∀ c ∈ text, set.has c = true := by
  induction n generalizing text with
  | zero =>
    rw [List.replicate_zero, fits_nil_iff, List.length_eq_zero_iff]
    simp +contextual
  | succ n ih =>
    cases text with
    | nil => simp [List.replicate_succ, not_fits_nil_cons]
    | cons c text =>
      rw [List.replicate_succ, fits_cons_iff, ih, List.length_cons, Nat.succ_inj,
        List.forall_mem_cons, and_left_comm]

theorem fits_single_cons_iff {c : Char} : Fits text (CharSet.single c :: sets) ↔
    ∃ rest, text = c :: rest ∧ Fits rest sets := by
  cases text with
  | nil => simp [not_fits_nil_cons]
  | cons d text =>
    have hsingle : (CharSet.single c).has d = true ↔ d = c := by
      rw [CharSet.has, CharSet.single, Text.CodeRanges.covers, ← Char.toNat_inj]
      split_ifs
      · simp only [false_iff]
        omega
      · simp only [Text.CodeRanges.covers, Bool.or_false, decide_eq_true_eq]
        omega
    rw [fits_cons_iff, hsingle]
    simp

end Fits

/-! ## Places that were entered -/

namespace Visited

/-- No instruction at a place or behind it was entered. -/
def IsClearFrom (visited : Visited) (place : Nat) : Prop :=
  ∀ thread : Thread, place ≤ thread.place → visited.has thread = false

theorem isClearFrom_start (length : Nat) : (start length).IsClearFrom 0 := by
  intro thread _
  have hrow : (start length).getD thread.position 0 = 0 := by
    rw [start, Array.getD_eq_getD_getElem?, Array.getElem?_replicate]
    split <;> rfl
  rw [has, hrow, Nat.zero_testBit]

/-- Entering a place takes no place behind it. -/
theorem IsClearFrom.insert (h : visited.IsClearFrom thread.place) :
    (visited.insert thread).IsClearFrom (thread.place + 1) := by
  intro other hother
  have hbefore := h other (by omega)
  rw [has, Array.getD_eq_getD_getElem?] at hbefore ⊢
  rw [Visited.insert, Array.getElem?_modify]
  split
  next =>
    -- In the row of this position, only the bit of the entered place is set.
    have hne : thread.place ≠ other.place := by omega
    cases hrow : visited[other.position]? with
    | none => exact Nat.zero_testBit _
    | some row =>
      rw [hrow, Option.getD_some] at hbefore
      rw [Option.map_some, Option.getD_some, Nat.testBit_or, hbefore, Nat.one_shiftLeft,
        Nat.testBit_two_pow_of_ne hne, Bool.or_false]
  next => exact hbefore

end Visited

/-! ## Straight code -/

/-- The code that stands at a place of a program. -/
def CodeAt (program : Array Instr) (place : Nat) (code : List Instr) : Prop :=
  program.toList.drop place = code

theorem CodeAt.getElem? (h : CodeAt program place (instr :: code)) :
    program[place]? = some instr := by
  have hhead := congrArg List.head? h
  rwa [List.head?_drop, Array.getElem?_toList] at hhead

theorem CodeAt.tail (h : CodeAt program place (instr :: code)) :
    CodeAt program (place + 1) code := by
  rw [CodeAt, ← List.drop_drop, h, List.drop_one, List.tail_cons]

/-! ## A thread alone -/

/-- Without threads, nothing is found. -/
theorem run_nil (fuel : Nat) : run program text fuel [] visited = (none, visited) := by
  cases fuel <;> rfl

section Instructions

variable (hclear : visited.IsClearFrom thread.place)

include hclear

/-- A thread alone is followed by what comes of it. -/
theorem run_single : (run program text (fuel + 1) [thread] visited).1 =
    match step program text thread with
    | .accepted => some thread.saved
    | .next more => (run program text fuel more (visited.insert thread)).1 := by
  rw [run, hclear thread (Nat.le_refl _), if_neg Bool.false_ne_true]
  cases step program text thread with
  | accepted => rfl
  | next more => simp only [List.append_nil]

/-- An instruction that goes on under a condition finds nothing where the condition fails. -/
theorem run_ite {holds : Bool} {next : Thread}
    (hstep : step program text thread = if holds then .next [next] else .next []) :
    (run program text (fuel + 1) [thread] visited).1 =
      if holds then (run program text fuel [next] (visited.insert thread)).1 else none := by
  rw [run_single hclear, hstep]
  cases holds with
  | true => rfl
  | false => exact congrArg Prod.fst (run_nil fuel)

theorem run_chars {set : CharSet} (h : program[thread.place]? = some (.chars set)) :
    (run program text (fuel + 1) [thread] visited).1 =
      if (text[thread.position]?).any set.has then
        (run program text fuel [⟨thread.place + 1, thread.position + 1, thread.saved⟩]
          (visited.insert thread)).1
      else none := by
  apply run_ite hclear
  rw [step, h]

theorem run_look {look : Look} (h : program[thread.place]? = some (.look look)) :
    (run program text (fuel + 1) [thread] visited).1 =
      if look.holds (around text thread.position) then
        (run program text fuel [⟨thread.place + 1, thread.position, thread.saved⟩]
          (visited.insert thread)).1
      else none := by
  apply run_ite hclear
  rw [step, h]

theorem run_save {slot : Nat} (h : program[thread.place]? = some (.save slot)) :
    (run program text (fuel + 1) [thread] visited).1 =
      (run program text fuel
        [⟨thread.place + 1, thread.position, (slot, thread.position) :: thread.saved⟩]
        (visited.insert thread)).1 := by
  rw [run_single hclear, step, h]

theorem run_accept (h : program[thread.place]? = some .accept) :
    (run program text (fuel + 1) [thread] visited).1 = some thread.saved := by
  rw [run_single hclear, step, h]

end Instructions

/-! ## The thread from the start of a text -/

/-- The code that goes past one character of each set and ends at the end of the text. -/
def restCode (sets : List CharSet) : List Instr :=
  sets.map .chars ++ [.look .textEnd, .save 1, .accept]

/-- The thread finds the end of the text behind one character of each set, or stops. -/
theorem isSome_run_iff {sets : List CharSet} (hcode : CodeAt program thread.place (restCode sets))
    (hclear : visited.IsClearFrom thread.place) (hfuel : sets.length + 3 ≤ fuel) :
    (run program text fuel [thread] visited).1.isSome = true ↔
      Fits (text.toList.drop thread.position) sets := by
  have hafter : ∀ position : Nat, text[position]? = (text.toList.drop position).head? := by
    intro position
    rw [List.head?_drop, Array.getElem?_toList]
  -- Induction on the sets that are left. As all that is behind the thread is clear, it is never
  -- taken for one that was there before.
  induction sets generalizing thread visited fuel with
  | nil =>
    rw [List.length_nil] at hfuel
    obtain ⟨fuel, rfl⟩ : ∃ more, fuel = more + 3 := ⟨fuel - 3, by omega⟩
    have hend : (run program text (fuel + 3) [thread] visited).1 =
        if (text[thread.position]?).isNone then some ((1, thread.position) :: thread.saved)
        else none := by
      rw [run_look hclear hcode.getElem?, run_save hclear.insert hcode.tail.getElem?,
        run_accept hclear.insert.insert hcode.tail.tail.getElem?]
      rfl
    rw [hend, fits_nil_iff, ← List.head?_eq_none_iff, ← hafter]
    simp
  | cons set sets ih =>
    obtain ⟨fuel, rfl⟩ : ∃ more, fuel = more + 1 := ⟨fuel - 1, by omega⟩
    rw [run_chars hclear hcode.getElem?, hafter]
    cases hrest : text.toList.drop thread.position with
    | nil => simp [not_fits_nil_cons]
    | cons c rest =>
      have hnext : text.toList.drop (thread.position + 1) = rest := by
        rw [← List.drop_drop, hrest, List.drop_one, List.tail_cons]
      have hlength : sets.length + 3 ≤ fuel := by
        simp only [List.length_cons] at hfuel
        omega
      rw [List.head?_cons, Option.any_some, fits_cons_iff]
      by_cases hc : set.has c = true
      · rw [if_pos hc, and_iff_right hc, ← hnext]
        exact ih hcode.tail hclear.insert hlength
      · simp [hc]

/-! ## Positions to start from -/

/-- The code of a pattern of whole texts. -/
def wholeCode (sets : List CharSet) : List Instr :=
  .save 0 :: .look .textStart :: restCode sets

/-- A thread finds nothing if none of those that come of it does. -/
theorem run_eq_none_of_step {more : List Thread} (hstep : step program text thread = .next more)
    (hmore : ∀ fuel visited, (run program text fuel more visited).1 = none) (fuel : Nat)
    (visited : Visited) : (run program text fuel [thread] visited).1 = none := by
  cases fuel with
  | zero => rfl
  | succ fuel =>
    rw [run]
    split
    · rw [run_nil]
    · rw [hstep]
      simpa only [List.append_nil] using hmore fuel _

/-- A pattern that begins at the start of a text is not found from another position. -/
theorem run_eq_none (hcode : CodeAt program 0 (.save 0 :: .look .textStart :: code))
    (hlow : 0 < position) (hhigh : position ≤ text.size) (fuel : Nat) (visited : Visited) :
    (run program text fuel [⟨0, position, []⟩] visited).1 = none := by
  have hbefore : Look.textStart.holds (around text position) = false := by
    have hchar : text[position - 1]? = some text[position - 1] :=
      Array.getElem?_eq_getElem (by omega)
    rw [Look.holds, around, if_neg (by omega), hchar]
    rfl
  have hsave : step program text ⟨0, position, []⟩ = .next [⟨1, position, [(0, position)]⟩] := by
    rw [step, hcode.getElem?]
  have hlook : step program text ⟨1, position, [(0, position)]⟩ = .next [] := by
    rw [step, hcode.tail.getElem?]
    exact if_neg (by simp [hbefore])
  refine run_eq_none_of_step hsave (run_eq_none_of_step hlook fun fuel visited => ?_) fuel visited
  rw [run_nil]

theorem searchFrom_eq_none (hcode : CodeAt program 0 (.save 0 :: .look .textStart :: code))
    {count : Nat} (hlow : 0 < position) (hhigh : position + count ≤ text.size + 1) :
    searchFrom program text count position visited = none := by
  induction count generalizing position visited with
  | zero => rfl
  | succ count ih =>
    have hposition : position ≤ text.size := by omega
    have hnone := run_eq_none hcode hlow hposition (runFuel program text) visited
    rw [searchFrom]
    split
    next hrun =>
      rw [hrun] at hnone
      cases hnone
    -- The places that were entered in vain do not matter for the next position.
    next => exact ih (Nat.succ_pos position) (by omega)

/-- For such a pattern, only the start of a text matters. -/
theorem searchFrom_of_textStart (hcode : CodeAt program 0 (.save 0 :: .look .textStart :: code)) :
    searchFrom program text (text.size + 1) 0 visited =
      (run program text (runFuel program text) [⟨0, 0, []⟩] visited).1 := by
  rw [searchFrom]
  split
  next hrun => rw [hrun]
  next hrun =>
    rw [hrun]
    exact searchFrom_eq_none hcode (by decide) (by omega)

/-! ## Whole texts -/

/-- The thread from the start of the text goes past one character of each set to the end. -/
theorem isSome_run_start_iff {sets : List CharSet} (hcode : CodeAt program 0 (wholeCode sets))
    (hclear : visited.IsClearFrom 0) (hfuel : sets.length + 5 ≤ fuel) :
    (run program text fuel [⟨0, 0, []⟩] visited).1.isSome = true ↔
      Fits text.toList sets := by
  obtain ⟨fuel, rfl⟩ : ∃ more, fuel = more + 2 := ⟨fuel - 2, by omega⟩
  have hrun : (run program text (fuel + 2) [⟨0, 0, []⟩] visited).1 =
      (run program text fuel [⟨2, 0, [(0, 0)]⟩]
        ((visited.insert ⟨0, 0, []⟩).insert ⟨1, 0, [(0, 0)]⟩)).1 := by
    rw [run_save hclear hcode.getElem?, run_look hclear.insert hcode.tail.getElem?]
    rfl
  rw [hrun]
  exact isSome_run_iff hcode.tail.tail hclear.insert.insert (by omega)

/-- A pattern of whole texts is in the texts that have a character of each set. -/
theorem isIn_iff_fits {pattern : Pattern} {sets : List CharSet}
    (hprogram : pattern.program.toList = wholeCode sets) (text : String) :
    pattern.isIn text = true ↔ Fits text.toList sets := by
  have hcode : CodeAt pattern.program 0 (wholeCode sets) := hprogram
  -- The thread takes one step for each instruction, and the bound allows for more.
  have hfuel : sets.length + 5 ≤ runFuel pattern.program text.toList.toArray := by
    have hsize : pattern.program.size = sets.length + 5 := by
      rw [← Array.length_toList, hprogram]
      simp [wholeCode, restCode]
    have hle := Nat.le_mul_of_pos_right (2 * pattern.program.size)
      (show 0 < text.toList.toArray.size + 1 by omega)
    rw [runFuel]
    omega
  rw [isIn, first?, findFrom?, Option.isSome_map, Nat.sub_zero, searchFrom_of_textStart hcode]
  exact isSome_run_start_iff hcode (Visited.isClearFrom_start _) hfuel

end Footage.Pattern
