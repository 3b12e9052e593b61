import Footage.Json.Reader
import Footage.Json.Writer
import Footage.Proofs.Stored.Digits

/-!
# Reading written JSON

The reader takes the text of a value apart into the value again, whatever follows it, as long as a
number is not followed by something that could belong to it. Values with numbers that are not held
as integers are left out: of these only the text is kept.

## Main definitions

* `Json.Exact`: the values whose numbers are all integers of 64 bits.
* `Json.Follows`: what may follow a number.
* `Json.IsReadBack`: the values that the reader takes off the start of a text that begins with them.

## Main results

* `Json.takeText?_writeString`: strings are read back, with all their escapes.
* `Json.takeNumber?_writeInteger`: integers are read back.
* `Json.Exact.isReadBack`: values are read back, by induction on the value.
* `Json.read?_write`: the document of a value.
-/

namespace Footage.Json

open Text

/-- The values whose numbers are all integers of 64 bits, with or without a sign. -/
inductive Exact : Json → Prop
  | null : Exact null
  | bool (b : Bool) : Exact (bool b)
  | integer {n : Int} (hlow : -9223372036854775808 ≤ n) (hhigh : n < 18446744073709551616) :
      Exact (integer n)
  | string (text : String) : Exact (string text)
  | array {elements : List Json} (h : ∀ value ∈ elements, Exact value) : Exact (array elements)
  | object {members : List (String × Json)} (h : ∀ member ∈ members, Exact member.2) :
      Exact (object members)

/-- What may follow a number: no digit, no point and no exponent. -/
def Follows (text : List Char) : Prop :=
  ∀ c ∈ text.head?, c.isDigit = false ∧ c ≠ '.' ∧ c ≠ 'e' ∧ c ≠ 'E'

/-! ## Strings -/

/-- A hexadecimal digit has the value that it was written for. -/
theorem hexValue?_hexDigit {n : Nat} (h : n < 16) : hexValue? (hexDigit n) = some n := by
  have hall : ∀ n < 16, hexValue? (hexDigit n) = some n := by decide
  exact hall n h

/-- A control is written as four digits, of which the last two are its code. -/
theorem takeEscapedUnit?_control {c : Char} (h : c.toNat < 32) (rest : List Char) :
    takeEscapedUnit? ('0' :: '0' :: hexDigit (c.toNat / 16) :: hexDigit (c.toNat % 16) :: rest) =
      some (c, rest) := by
  have hzero : hexValue? '0' = some 0 := by decide
  -- The quotient and the remainder by sixteen are the two digits of the code.
  have hhigh := hexValue?_hexDigit (show c.toNat / 16 < 16 by omega)
  have hlow := hexValue?_hexDigit (show c.toNat % 16 < 16 by omega)
  have hcode : c.toNat / 16 * 16 + c.toNat % 16 = c.toNat := by omega
  have hunit : takeUnit?
      ('0' :: '0' :: hexDigit (c.toNat / 16) :: hexDigit (c.toNat % 16) :: rest) =
        some (c.toNat, rest) := by
    simp [takeUnit?, hzero, hhigh, hlow, hcode]
  -- The code is too small for one half of a surrogate pair.
  have hpair : ¬(0xD800 ≤ c.toNat ∧ c.toNat < 0xDC00) := by omega
  have hlone : ¬(0xDC00 ≤ c.toNat ∧ c.toNat < 0xE000) := by omega
  simp [takeEscapedUnit?, hunit, hpair, hlone]

variable {fuel : Nat} {c : Char} {rest : List Char}

/-- A one-letter escape is read as the character that it stands for. -/
theorem takeString?_escaped {letter : Char} (h : escaped? letter = some c) :
    takeString? (fuel + 1) ('\\' :: letter :: rest) =
      (takeString? fuel rest).map fun (text, rest) => (c :: text, rest) := by
  have hletter : letter ≠ 'u' := by
    rintro rfl
    cases h
  rw [takeString?]
  · rw [h]
    cases takeString? fuel rest <;> rfl
  · exact hletter

/-- A character that needs no escape is read as it is. -/
theorem takeString?_plain (hquote : c ≠ '"') (hbackslash : c ≠ '\\') (hplain : ¬c.toNat < 32) :
    takeString? (fuel + 1) (c :: rest) =
      (takeString? fuel rest).map fun (text, rest) => (c :: text, rest) := by
  rw [takeString?]
  · rw [if_neg (by simp [hbackslash, hplain])]
    cases takeString? fuel rest <;> rfl
  all_goals simp_all

/-- A character is written as an escape with a letter of its own, as a control, or as it is. -/
theorem writeChar_cases (c : Char) :
    (∃ letter, escaped? letter = some c ∧ writeChar c = ['\\', letter]) ∨
    (c.toNat < 32 ∧
      writeChar c = ['\\', 'u', '0', '0', hexDigit (c.toNat / 16), hexDigit (c.toNat % 16)]) ∨
    (c ≠ '"' ∧ c ≠ '\\' ∧ ¬c.toNat < 32 ∧ writeChar c = [c]) := by
  rw [writeChar]
  -- Seven characters have letters of their own.
  iterate 7
    split
    next hc => exact .inl ⟨_, by subst hc; rfl, rfl⟩
  split
  next hcontrol => exact .inr (.inl ⟨hcontrol, rfl⟩)
  next hquote hbackslash _ _ _ _ _ hplain => exact .inr (.inr ⟨hquote, hbackslash, hplain, rfl⟩)

/-- A character of a string is read as it was written. -/
theorem takeString?_writeChar (c : Char) (fuel : Nat) (rest : List Char) :
    takeString? (fuel + 1) (writeChar c ++ rest) =
      (takeString? fuel rest).map fun (text, rest) => (c :: text, rest) := by
  rcases writeChar_cases c with ⟨letter, hletter, hwrite⟩ | ⟨hcontrol, hwrite⟩ |
    ⟨hquote, hbackslash, hplain, hwrite⟩
  · rw [hwrite]
    exact takeString?_escaped hletter
  · have hunit := takeEscapedUnit?_control hcontrol rest
    rw [hwrite]
    cases htail : takeString? fuel rest <;> simp [takeString?, hunit, htail]
  · rw [hwrite]
    exact takeString?_plain hquote hbackslash hplain

/-- The characters of a string are read up to the quote that closes it. -/
theorem takeString?_write (text rest : List Char) (h : text.length < fuel) :
    takeString? fuel (text.flatMap writeChar ++ '"' :: rest) = some (text, rest) := by
  induction text generalizing fuel with
  | nil =>
    obtain ⟨fuel, rfl⟩ := Nat.exists_eq_add_one_of_ne_zero (Nat.ne_of_gt h)
    rfl
  | cons c text ih =>
    obtain ⟨fuel, rfl⟩ := Nat.exists_eq_add_one_of_ne_zero (Nat.ne_of_gt (Nat.zero_lt_of_lt h))
    have hrest := ih (Nat.lt_of_succ_lt_succ h)
    rw [List.flatMap_cons, List.append_assoc, takeString?_writeChar, hrest]
    rfl

theorem writeChar_ne_nil (c : Char) : writeChar c ≠ [] := by
  rcases writeChar_cases c with ⟨letter, -, hwrite⟩ | ⟨-, hwrite⟩ | ⟨-, -, -, hwrite⟩ <;>
    simp [hwrite]

/-- The text of a string is not shorter than the string. -/
theorem length_le_length_flatMap (text : List Char) :
    text.length ≤ (text.flatMap writeChar).length := by
  induction text with
  | nil => simp
  | cons c text ih =>
    have hc : 0 < (writeChar c).length := List.length_pos_iff.2 (writeChar_ne_nil c)
    rw [List.flatMap_cons, List.length_append, List.length_cons]
    omega

/-- A string is read back. -/
theorem takeText?_writeString (text : String) (rest : List Char) :
    takeText? (text.toList.flatMap writeChar ++ '"' :: rest) = some (some text, rest) := by
  have hlength := length_le_length_flatMap text.toList
  have hfuel : text.toList.length < (text.toList.flatMap writeChar ++ '"' :: rest).length + 1 := by
    rw [List.length_append]
    omega
  rw [takeText?, takeString?_write text.toList rest hfuel]
  simp

/-! ## Numbers -/

theorem Follows.noDigit (h : Follows rest) : NoDigit rest :=
  fun c hc => (h c hc).1

theorem follows_nil : Follows [] := by
  intro c hc
  cases hc

/-- A character that ends an element or a member may follow a number. -/
theorem follows_cons (h : c = ',' ∨ c = ']' ∨ c = '}') (rest : List Char) :
    Follows (c :: rest) := by
  intro other hother
  obtain rfl := Option.some.inj hother
  rcases h with rfl | rfl | rfl <;> decide

/-- There is no fraction in what may follow a number. -/
theorem takeFraction?_of_follows (h : Follows rest) : takeFraction? rest = some ([], rest) := by
  rw [takeFraction?]
  rintro digits rfl
  exact (h '.' rfl).2.1 rfl

/-- There is no exponent in what may follow a number. -/
theorem takeExponent?_of_follows (h : Follows rest) : takeExponent? rest = some ([], rest) := by
  cases rest with
  | nil => rfl
  | cons c rest =>
    obtain ⟨-, -, hlower, hupper⟩ := h c rfl
    simp [takeExponent?, hlower, hupper]

/-- Takes a number after its sign. -/
def takeUnsigned? (negative : Bool) (text : List Char) : Option (Json × List Char) := do
  let digits := text.takeWhile Char.isDigit
  if digits.isEmpty ∨ (digits.length > 1 ∧ digits.head? = some '0') then none
  else
    let (fraction, rest) ← takeFraction? (text.drop digits.length)
    let (exponent, rest) ← takeExponent? rest
    return (ofNumeral negative digits (fraction ++ exponent), rest)

theorem takeNumber?_minus (text : List Char) :
    takeNumber? ('-' :: text) = takeUnsigned? true text := rfl

theorem takeNumber?_digit (h : c.isDigit = true) :
    takeNumber? (c :: rest) = takeUnsigned? false (c :: rest) := by
  have hsign : c ≠ '-' := by
    rintro rfl
    exact absurd h (by decide)
  simp [takeNumber?, takeUnsigned?, hsign]

/-- The digits of a number are read up to where they end. -/
theorem takeUnsigned?_decimal (negative : Bool) (n : Nat) (h : Follows rest) :
    takeUnsigned? negative (decimal n ++ rest) =
      some (ofNumeral negative (decimal n) [], rest) := by
  have hdigits : (decimal n ++ rest).takeWhile Char.isDigit = decimal n :=
    takeWhile_digits_append (fun c hc => isDigit_of_mem_decimal hc) h.noDigit
  have hvalid : ¬((decimal n).isEmpty = true ∨
      (decimal n).length > 1 ∧ (decimal n).head? = some '0') := by
    rw [not_or]
    exact ⟨by simp [decimal_ne_nil], not_leading_zero n⟩
  rw [takeUnsigned?]
  simp only [hdigits, if_neg hvalid, List.drop_left, takeFraction?_of_follows h]
  simp [takeExponent?_of_follows h]

/-- An integer of 64 bits is read back. -/
theorem takeNumber?_writeInteger {n : Int} (hlow : -9223372036854775808 ≤ n)
    (hhigh : n < 18446744073709551616) (h : Follows rest) :
    takeNumber? (writeInteger n ++ rest) = some (.integer n, rest) := by
  have hsize : UInt64.size = 18446744073709551616 := rfl
  -- The number is read as the digits of its absolute value, with the sign taken off before.
  rw [writeInteger]
  split
  next hsign =>
    rw [List.cons_append, takeNumber?_minus, takeUnsigned?_decimal true _ h, ofNumeral,
      digitsValue_decimal, if_neg (by simp), if_pos ⟨rfl, rfl, by omega, by omega⟩]
    have habs : -(n.natAbs : Int) = n := by omega
    rw [habs]
  next hsign =>
    have hunsigned := takeUnsigned?_decimal false n.natAbs h
    obtain ⟨c, digits, hcons, hc⟩ := exists_decimal_eq_cons n.natAbs
    rw [hcons, List.cons_append] at hunsigned
    rw [hcons, List.cons_append, takeNumber?_digit hc, hunsigned, ← hcons, ofNumeral,
      digitsValue_decimal, if_pos ⟨rfl, by decide, by omega⟩]
    have habs : (n.natAbs : Int) = n := by omega
    rw [habs]

/-! ## Values -/

/-- What is no blank stays at the start of a text. -/
theorem skipSpace_cons (h : isSpace c = false) (rest : List Char) :
    skipSpace (c :: rest) = c :: rest := by
  simp [skipSpace, h]

theorem isSpace_of_number (h : c.isDigit = true ∨ c = '-') : isSpace c = false := by
  by_contra hblank
  simp only [isSpace, Bool.not_eq_false, Bool.or_eq_true, beq_iff_eq] at hblank
  rcases hblank with ((rfl | rfl) | rfl) | rfl <;> revert h <;> decide

/-- A digit or a minus sign is the start of a number. -/
theorem takeValue?_number (h : c.isDigit = true ∨ c = '-') :
    takeValue? (fuel + 1) (c :: rest) = takeNumber? (c :: rest) := by
  rw [takeValue?, skipSpace_cons (isSpace_of_number h)]
  split
  next heq => cases heq
  -- The six characters that begin another value.
  iterate 6
    next heq =>
      cases heq
      exact absurd h (by decide)
  next => rfl

/-- An array whose first character begins an element is read by its elements. -/
theorem takeValue?_array (hblank : isSpace c = false) (hbracket : c ≠ ']') :
    takeValue? (fuel + 1) ('[' :: c :: rest) =
      (takeElements? fuel (c :: rest)).map fun (elements, rest) => (array elements, rest) := by
  rw [takeValue?, skipSpace_cons (by decide)]
  simp only [skipSpace_cons hblank]
  split
  next heq => exact absurd (List.cons.inj heq).1 hbracket
  next => rfl

/-- An object with a key is read by its members. -/
theorem takeValue?_object :
    takeValue? (fuel + 1) ('{' :: '"' :: rest) =
      (takeMembers? fuel ('"' :: rest)).map fun (members, rest) => (ofMembers members, rest) := by
  rw [takeValue?, skipSpace_cons (by decide)]
  simp only [skipSpace_cons (show isSpace '"' = false by decide)]
  rfl

/-- The text of a value is taken apart into the value, whatever follows that may follow a number. -/
def IsReadBack (value : Json) : Prop :=
  ∀ fuel rest, (write value).length ≤ fuel → Follows rest →
    takeValue? fuel (write value ++ rest) = some (value, rest)

/-- Elements that are read back are read back one after the other. -/
theorem takeElements?_write {value : Json} {elements : List Json}
    (h : ∀ element ∈ value :: elements, IsReadBack element)
    (hfuel : (write value ++ writeElements elements).length ≤ fuel) (rest : List Char) :
    takeElements? fuel (write value ++ (writeElements elements ++ rest)) =
      some (value :: elements, rest) := by
  -- Each element takes one step, and its text with the character after it is longer than that.
  induction elements generalizing value fuel with
  | nil =>
    rw [writeElements, List.length_append, List.length_singleton] at hfuel
    obtain ⟨fuel, rfl⟩ : ∃ less, fuel = less + 1 := ⟨fuel - 1, by omega⟩
    have hvalue := h value List.mem_cons_self fuel (']' :: rest) (by omega)
      (follows_cons (.inr (.inl rfl)) rest)
    rw [writeElements, List.singleton_append, takeElements?, hvalue]
    simp [skipSpace_cons (show isSpace ']' = false by decide)]
  | cons next elements ih =>
    rw [writeElements, List.length_append, List.length_cons, List.length_append] at hfuel
    obtain ⟨fuel, rfl⟩ : ∃ less, fuel = less + 1 := ⟨fuel - 1, by omega⟩
    have hvalue := h value List.mem_cons_self fuel
      (',' :: (write next ++ (writeElements elements ++ rest))) (by omega)
      (follows_cons (.inl rfl) _)
    have hlength : (write next ++ writeElements elements).length ≤ fuel := by
      rw [List.length_append]
      omega
    have hrest := ih (List.forall_mem_cons.1 h).2 hlength
    rw [writeElements, List.cons_append, List.append_assoc, takeElements?, hvalue]
    simp [skipSpace_cons (show isSpace ',' = false by decide), hrest]

/-- Members whose keys all have texts make an object. -/
theorem ofMembers_map_some (members : List (String × Json)) :
    ofMembers (members.map fun member => (some member.1, member.2)) = object members := by
  have hmembers : (members.map fun member => (some member.1, member.2)).mapM
      (fun member => member.1.map fun key => (key, member.2)) = some members := by
    induction members with
    | nil => rfl
    | cons member members ih => simp [ih]
  rw [ofMembers, hmembers]

/-- Members whose values are read back are read back one after the other. -/
theorem takeMembers?_write {key : String} {value : Json} {members : List (String × Json)}
    (h : ∀ member ∈ (key, value) :: members, IsReadBack member.2)
    (hfuel : (writeString key ++ ':' :: (write value ++ writeMembers members)).length ≤ fuel)
    (rest : List Char) :
    takeMembers? fuel
        (writeString key ++ ':' :: (write value ++ (writeMembers members ++ rest))) =
      some (((key, value) :: members).map fun member => (some member.1, member.2), rest) := by
  -- After a member comes the closing brace or the comma before the next one. The value ends there,
  -- even if it is a number.
  induction members generalizing key value fuel with
  | nil =>
    rw [writeMembers, List.length_append, List.length_cons, List.length_append,
      List.length_singleton] at hfuel
    obtain ⟨fuel, rfl⟩ : ∃ less, fuel = less + 1 := ⟨fuel - 1, by omega⟩
    have hvalue : IsReadBack value := h (key, value) List.mem_cons_self
    have hvalue := hvalue fuel ('}' :: rest) (by omega) (follows_cons (.inr (.inr rfl)) rest)
    rw [writeMembers, List.singleton_append, writeString, List.cons_append, takeMembers?,
      skipSpace_cons (by decide)]
    simp [takeText?_writeString, skipSpace_cons (show isSpace ':' = false by decide), hvalue,
      skipSpace_cons (show isSpace '}' = false by decide)]
  | cons next members ih =>
    rw [writeMembers, List.length_append, List.length_cons, List.length_append, List.length_cons]
      at hfuel
    obtain ⟨fuel, rfl⟩ : ∃ less, fuel = less + 1 := ⟨fuel - 1, by omega⟩
    have hvalue : IsReadBack value := h (key, value) List.mem_cons_self
    have hvalue := hvalue fuel
      (',' :: (writeString next.1 ++ ':' :: (write next.2 ++ (writeMembers members ++ rest))))
      (by omega) (follows_cons (.inl rfl) _)
    have hlength :
        (writeString next.1 ++ ':' :: (write next.2 ++ writeMembers members)).length ≤ fuel := by
      omega
    have hrest := ih (List.forall_mem_cons.1 h).2 hlength
    rw [writeMembers, List.cons_append, writeString, List.cons_append, takeMembers?,
      skipSpace_cons (by decide)]
    simp [takeText?_writeString, skipSpace_cons (show isSpace ':' = false by decide), hvalue,
      skipSpace_cons (show isSpace ',' = false by decide), hrest]

/-- An integer begins with a digit or with a minus sign. -/
theorem exists_writeInteger_eq_cons (n : Int) :
    ∃ c text, writeInteger n = c :: text ∧ (c.isDigit = true ∨ c = '-') := by
  rw [writeInteger]
  split
  · exact ⟨'-', _, rfl, .inr rfl⟩
  · obtain ⟨c, text, hcons, hc⟩ := exists_decimal_eq_cons n.natAbs
    exact ⟨c, text, hcons, .inl hc⟩

/-- The text of a value begins with no blank and with no bracket that closes an array. -/
theorem Exact.exists_write_eq_cons {value : Json} (h : Exact value) :
    ∃ c text, write value = c :: text ∧ isSpace c = false ∧ c ≠ ']' := by
  cases h with
  | null => exact ⟨'n', _, rfl, by decide, by decide⟩
  | bool b => cases b <;> exact ⟨_, _, rfl, by decide, by decide⟩
  | @integer n hlow hhigh =>
    obtain ⟨c, text, hcons, hc⟩ := exists_writeInteger_eq_cons n
    have hne : isSpace c = false ∧ c ≠ ']' := by
      refine ⟨?_, ?_⟩
      · exact isSpace_of_number hc
      · rintro rfl
        revert hc
        decide
    exact ⟨c, text, hcons, hne⟩
  | string text => exact ⟨'"', _, rfl, by decide, by decide⟩
  | @array elements h => cases elements <;> exact ⟨'[', _, rfl, by decide, by decide⟩
  | @object members h => cases members <;> exact ⟨'{', _, rfl, by decide, by decide⟩

/-- A reader that may take as many steps as the text of a value has characters may take one. -/
theorem Exact.exists_fuel {value : Json} (h : Exact value)
    (hfuel : (write value).length ≤ fuel) : ∃ less, fuel = less + 1 := by
  obtain ⟨c, text, hcons, -, -⟩ := h.exists_write_eq_cons
  rw [hcons, List.length_cons] at hfuel
  exact ⟨fuel - 1, by omega⟩

/-- A value whose numbers are integers of 64 bits is read back. -/
theorem Exact.isReadBack {value : Json} (h : Exact value) : IsReadBack value := by
  -- The induction goes through the elements and members of the value. The first character of a text
  -- decides how it is read, so each case first brings that character to the front.
  induction h with
  | null =>
    intro fuel rest hfuel _
    obtain ⟨fuel, rfl⟩ := Exact.null.exists_fuel hfuel
    rfl
  | bool b =>
    intro fuel rest hfuel _
    obtain ⟨fuel, rfl⟩ := (Exact.bool b).exists_fuel hfuel
    cases b <;> rfl
  | @integer n hlow hhigh =>
    intro fuel rest hfuel hrest
    obtain ⟨fuel, rfl⟩ := (Exact.integer hlow hhigh).exists_fuel hfuel
    obtain ⟨c, text, hcons, hc⟩ := exists_writeInteger_eq_cons n
    have hnumber := takeNumber?_writeInteger hlow hhigh hrest
    rw [hcons, List.cons_append] at hnumber
    rw [write, hcons, List.cons_append, takeValue?_number hc, hnumber]
  | string text =>
    intro fuel rest hfuel _
    obtain ⟨fuel, rfl⟩ := (Exact.string text).exists_fuel hfuel
    rw [write, writeString, List.cons_append, takeValue?, skipSpace_cons (by decide)]
    simp [takeText?_writeString, ofText]
  | @array elements h ih =>
    intro fuel rest hfuel _
    obtain ⟨fuel, rfl⟩ := (Exact.array h).exists_fuel hfuel
    cases elements with
    | nil => rfl
    | cons value elements =>
      rw [write, List.length_cons] at hfuel
      obtain ⟨c, text, hcons, hblank, hbracket⟩ :=
        (h value List.mem_cons_self).exists_write_eq_cons
      have helements := takeElements?_write ih (Nat.le_of_succ_le_succ hfuel) rest
      rw [hcons, List.cons_append] at helements
      rw [write, hcons, List.cons_append, List.append_assoc, List.cons_append,
        takeValue?_array hblank hbracket, helements]
      rfl
  | @object members h ih =>
    intro fuel rest hfuel _
    obtain ⟨fuel, rfl⟩ := (Exact.object h).exists_fuel hfuel
    cases members with
    | nil => rfl
    | cons member members =>
      rw [write, List.length_cons] at hfuel
      have hmembers := takeMembers?_write ih (Nat.le_of_succ_le_succ hfuel) rest
      rw [writeString, List.cons_append] at hmembers
      rw [write, writeString, List.cons_append, List.cons_append, List.cons_append,
        takeValue?_object]
      simp only [List.append_assoc, List.cons_append, List.nil_append] at hmembers ⊢
      rw [hmembers, Option.map_some, ofMembers_map_some]

/-- The document of a value whose numbers are integers of 64 bits is read as the value. -/
theorem read?_write {value : Json} (h : Exact value) : read? (write value) = some value := by
  have hvalue := h.isReadBack (2 * (write value).length + 2) [] (by omega) follows_nil
  rw [List.append_nil] at hvalue
  rw [read?, hvalue]
  rfl

end Footage.Json
