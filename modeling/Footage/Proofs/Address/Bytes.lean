import Footage.Url.Percent
import Mathlib.Algebra.Order.Ring.Nat

/-!
# Bytes of texts

The bytes of a text are read as the text again, also where a part of a URL writes them as percent
signs and digits. So nothing that a text holds is lost in a URL, as long as percent signs that stand
for themselves are encoded too.

## Main results

* `Text.decodeUtf8_encodeUtf8`: a text is read off its bytes.
* `Url.percentDecode_percentEncode`: the bytes of a text are read off its encoding.
-/

namespace Footage

open Text

namespace Text

/-! ## UTF-8 -/

/-- The byte of six bits that continues a character. -/
def tailByte (bits : Nat) : UInt8 :=
  UInt8.ofNat (bits % 64 + 128)

theorem toNat_tailByte (bits : Nat) : (tailByte bits).toNat = bits % 64 + 128 := by
  exact UInt8.toNat_ofNat_of_lt (show _ < 256 by omega)

theorem isTail_tailByte (bits : Nat) : isTail (tailByte bits) = true := by
  simp only [isTail, Bool.and_eq_true, decide_eq_true_eq, UInt8.le_iff_toNat_le,
    UInt8.toNat_ofNat, toNat_tailByte, Nat.reducePow, Nat.reduceMod]
  omega

theorem tailBits_tailByte (bits : Nat) : tailBits (tailByte bits) = bits % 64 := by
  rw [tailBits, toNat_tailByte]
  omega

/-- A byte after which more bytes follow is not in ASCII. -/
theorem not_lt_of_leadByte? {lead : UInt8} {bounds : UInt8 × UInt8 × Nat}
    (h : leadByte? lead = some bounds) : ¬lead < 0x80 := by
  intro hascii
  simp only [leadByte?, UInt8.le_iff_toNat_le, ← UInt8.toNat_inj, UInt8.lt_iff_toNat_lt,
    UInt8.toNat_ofNat, Nat.reducePow, Nat.reduceMod] at h hascii
  split_ifs at h <;> omega

section LeadByte

variable {n : Nat}

/-- The first of two bytes. -/
theorem leadByte?_of_two (hlow : 0x80 ≤ n) (hhigh : n < 0x800) :
    leadByte? (UInt8.ofNat (n / 64 % 32 + 0xC0)) = some (0x80, 0xBF, 0) := by
  rw [leadByte?, if_pos]
  simp only [UInt8.le_iff_toNat_le, UInt8.toNat_ofNat, UInt8.toNat_ofNat', Nat.reducePow,
    Nat.reduceMod]
  omega

/-- The first of three bytes sets bounds to the second one that leave out what would fit two bytes
and the surrogates. -/
theorem exists_leadByte?_of_three (hlow : 0x800 ≤ n) (hhigh : n < 0x10000)
    (hvalid : n < 0xD800 ∨ 0xDFFF < n) :
    ∃ low high, leadByte? (UInt8.ofNat (n / 4096 % 16 + 0xE0)) = some (low, high, 1) ∧
      low ≤ tailByte (n / 64) ∧ tailByte (n / 64) ≤ high := by
  have hsecond := toNat_tailByte (n / 64)
  have hlead : (UInt8.ofNat (n / 4096 % 16 + 0xE0)).toNat = n / 4096 % 16 + 0xE0 :=
    UInt8.toNat_ofNat_of_lt (show _ < 256 by omega)
  simp only [leadByte?, UInt8.le_iff_toNat_le, ← UInt8.toNat_inj, hlead, hsecond,
    UInt8.toNat_ofNat, Nat.reducePow, Nat.reduceMod]
  -- After 0xE0 the bounds leave out what fits two bytes, after 0xED the surrogates.
  split_ifs with htwo hfirst hbeforeSurrogates hthree
  · omega
  · exact ⟨_, _, rfl, (by omega : 0xA0 ≤ n / 64 % 64 + 128), (by omega : n / 64 % 64 + 128 ≤ 0xBF)⟩
  · exact ⟨_, _, rfl, (by omega : 0x80 ≤ n / 64 % 64 + 128), (by omega : n / 64 % 64 + 128 ≤ 0x9F)⟩
  · exact ⟨_, _, rfl, (by omega : 0x80 ≤ n / 64 % 64 + 128), (by omega : n / 64 % 64 + 128 ≤ 0xBF)⟩
  all_goals omega

/-- The first of four bytes sets bounds to the second one that leave out what would fit three bytes
and what no character has. -/
theorem exists_leadByte?_of_four (hlow : 0x10000 ≤ n) (hhigh : n < 0x110000) :
    ∃ low high, leadByte? (UInt8.ofNat (n / 262144 % 8 + 0xF0)) = some (low, high, 2) ∧
      low ≤ tailByte (n / 4096) ∧ tailByte (n / 4096) ≤ high := by
  have hsecond := toNat_tailByte (n / 4096)
  have hlead : (UInt8.ofNat (n / 262144 % 8 + 0xF0)).toNat = n / 262144 % 8 + 0xF0 :=
    UInt8.toNat_ofNat_of_lt (show _ < 256 by omega)
  simp only [leadByte?, UInt8.le_iff_toNat_le, ← UInt8.toNat_inj, hlead, hsecond,
    UInt8.toNat_ofNat, Nat.reducePow, Nat.reduceMod]
  -- After 0xF0 the bounds leave out what fits three bytes, after 0xF4 what no character has.
  split_ifs with _ _ _ _ hfirst hfour hlast
  · omega
  · omega
  · omega
  · omega
  · exact ⟨_, _, rfl, (by omega : 0x90 ≤ n / 4096 % 64 + 128),
      (by omega : n / 4096 % 64 + 128 ≤ 0xBF)⟩
  · exact ⟨_, _, rfl, (by omega : 0x80 ≤ n / 4096 % 64 + 128),
      (by omega : n / 4096 % 64 + 128 ≤ 0xBF)⟩
  · exact ⟨_, _, rfl, (by omega : 0x80 ≤ n / 4096 % 64 + 128),
      (by omega : n / 4096 % 64 + 128 ≤ 0x8F)⟩
  · omega

end LeadByte

section Decode

variable {α : Type} {add : Char → α → α} {broken : α → α} {done : α} {lead : UInt8}
  {low high : UInt8}

theorem decodeUtf8With_one (hlead : lead < 0x80) (rest : List UInt8) :
    decodeUtf8With add broken done (lead :: rest) =
      add (Char.ofNat lead.toNat) (decodeUtf8With add broken done rest) := by
  rw [decodeUtf8With, if_pos hlead]

theorem decodeUtf8With_two (hlead : leadByte? lead = some (low, high, 0)) {second : UInt8}
    (hsecond : low ≤ second ∧ second ≤ high) (rest : List UInt8) :
    decodeUtf8With add broken done (lead :: second :: rest) =
      add (Char.ofNat (lead.toNat % 32 * 64 + tailBits second))
        (decodeUtf8With add broken done rest) := by
  rw [decodeUtf8With, if_neg (not_lt_of_leadByte? hlead)]
  simp only [hlead, hsecond, and_self, if_true]

theorem decodeUtf8With_three (hlead : leadByte? lead = some (low, high, 1)) {second : UInt8}
    (hsecond : low ≤ second ∧ second ≤ high) (third : Nat) (rest : List UInt8) :
    decodeUtf8With add broken done (lead :: second :: tailByte third :: rest) =
      add (Char.ofNat (lead.toNat % 16 * 4096 + tailBits second * 64 + third % 64))
        (decodeUtf8With add broken done rest) := by
  rw [decodeUtf8With, if_neg (not_lt_of_leadByte? hlead)]
  simp only [hlead, hsecond, and_self, if_true, one_ne_zero, if_false, isTail_tailByte,
    tailBits_tailByte]

theorem decodeUtf8With_four (hlead : leadByte? lead = some (low, high, 2)) {second : UInt8}
    (hsecond : low ≤ second ∧ second ≤ high) (third fourth : Nat) (rest : List UInt8) :
    decodeUtf8With add broken done (lead :: second :: tailByte third :: tailByte fourth :: rest) =
      add (Char.ofNat (lead.toNat % 8 * 262144 + tailBits second * 4096 + third % 64 * 64 +
        fourth % 64)) (decodeUtf8With add broken done rest) := by
  rw [decodeUtf8With, if_neg (not_lt_of_leadByte? hlead)]
  simp [hlead, hsecond, isTail_tailByte, tailBits_tailByte]

end Decode

/-- The bytes of a character, by its number. -/
theorem encodeChar_eq (c : Char) :
    String.utf8EncodeChar c =
      if c.toNat ≤ 0x7F then [UInt8.ofNat c.toNat]
      else if c.toNat ≤ 0x7FF then
        [UInt8.ofNat (c.toNat / 64 % 32 + 0xC0), tailByte c.toNat]
      else if c.toNat ≤ 0xFFFF then
        [UInt8.ofNat (c.toNat / 4096 % 16 + 0xE0), tailByte (c.toNat / 64), tailByte c.toNat]
      else
        [UInt8.ofNat (c.toNat / 262144 % 8 + 0xF0), tailByte (c.toNat / 4096),
          tailByte (c.toNat / 64), tailByte c.toNat] := rfl

/-- A character is read off its bytes, whatever follows them. -/
theorem decodeUtf8With_encodeChar {α : Type} (add : Char → α → α) (broken : α → α) (done : α)
    (c : Char) (rest : List UInt8) :
    decodeUtf8With add broken done (String.utf8EncodeChar c ++ rest) =
      add c (decodeUtf8With add broken done rest) := by
  have hchar : ∀ n, n = c.toNat → Char.ofNat n = c := by
    rintro _ rfl
    exact Char.ofNat_toNat c
  have hvalid : c.toNat < 0xD800 ∨ 0xDFFF < c.toNat ∧ c.toNat < 0x110000 := c.valid
  rw [encodeChar_eq]
  -- The number of bytes follows the size of the character's number.
  split_ifs with hone htwo hthree
  · have hlead : (UInt8.ofNat c.toNat).toNat = c.toNat :=
      UInt8.toNat_ofNat_of_lt (show _ < 256 by omega)
    have hascii : UInt8.ofNat c.toNat < 0x80 := by
      rw [UInt8.lt_iff_toNat_lt, hlead]
      exact Nat.lt_succ_of_le hone
    rw [List.singleton_append, decodeUtf8With_one hascii, hlead, hchar _ rfl]
  · have hlead : (UInt8.ofNat (c.toNat / 64 % 32 + 0xC0)).toNat = c.toNat / 64 % 32 + 0xC0 :=
      UInt8.toNat_ofNat_of_lt (show _ < 256 by omega)
    have hbounds := leadByte?_of_two (show 0x80 ≤ c.toNat by omega) (by omega)
    have hsecond : 0x80 ≤ tailByte c.toNat ∧ tailByte c.toNat ≤ 0xBF := by
      simpa [isTail] using isTail_tailByte c.toNat
    rw [List.cons_append, List.singleton_append, decodeUtf8With_two hbounds hsecond, hlead,
      tailBits_tailByte, hchar _ (by omega)]
  · have hlead : (UInt8.ofNat (c.toNat / 4096 % 16 + 0xE0)).toNat = c.toNat / 4096 % 16 + 0xE0 :=
      UInt8.toNat_ofNat_of_lt (show _ < 256 by omega)
    obtain ⟨low, high, hbounds, hsecond⟩ :=
      exists_leadByte?_of_three (show 0x800 ≤ c.toNat by omega) (by omega) (by omega)
    rw [List.cons_append, List.cons_append, List.singleton_append,
      decodeUtf8With_three hbounds hsecond, hlead, tailBits_tailByte, hchar _ (by omega)]
  · have hlead : (UInt8.ofNat (c.toNat / 262144 % 8 + 0xF0)).toNat = c.toNat / 262144 % 8 + 0xF0 :=
      UInt8.toNat_ofNat_of_lt (show _ < 256 by omega)
    obtain ⟨low, high, hbounds, hsecond⟩ :=
      exists_leadByte?_of_four (show 0x10000 ≤ c.toNat by omega) (by omega)
    rw [List.cons_append, List.cons_append, List.cons_append, List.singleton_append,
      decodeUtf8With_four hbounds hsecond, hlead, tailBits_tailByte, hchar _ (by omega)]

/-- A text is read off its bytes. -/
theorem decodeUtf8_encodeUtf8 (text : List Char) : decodeUtf8 (encodeUtf8 text) = text := by
  induction text with
  | nil => rfl
  | cons c text ih =>
    rw [encodeUtf8, List.flatMap_cons, decodeUtf8, decodeUtf8With_encodeChar]
    exact congrArg (c :: ·) ih

end Text

namespace Url

/-! ## Percent signs -/

/-- A hexadecimal digit has the value that it was written for. -/
theorem hexValue?_hexDigit {n : Nat} (h : n < 16) : hexValue? (hexDigit n) = some n := by
  have hall : ∀ n < 16, hexValue? (hexDigit n) = some n := by decide
  exact hall n h

/-- A byte is written as a percent sign and hexadecimal digits. -/
theorem isHexDigit_of_mem_percentByte {b : UInt8} {c : Char} (h : c ∈ percentByte b) :
    c = '%' ∨ isHexDigit c = true := by
  have hb : b.toNat < 256 := b.toNat_lt
  have hhigh := hexValue?_hexDigit (show b.toNat / 16 < 16 by omega)
  have hlow := hexValue?_hexDigit (show b.toNat % 16 < 16 by omega)
  simp only [percentByte, List.mem_cons, List.not_mem_nil, or_false] at h
  rcases h with rfl | rfl | rfl
  · exact .inl rfl
  · exact .inr (by rw [isHexDigit, hhigh, Option.isSome_some])
  · exact .inr (by rw [isHexDigit, hlow, Option.isSome_some])

/-- A byte is read off its percent sign and digits. -/
theorem percentDecode_percentByte (b : UInt8) (rest : List Char) :
    percentDecode (percentByte b ++ rest) = b :: percentDecode rest := by
  have hb : b.toNat < 256 := b.toNat_lt
  have hhigh := hexValue?_hexDigit (show b.toNat / 16 < 16 by omega)
  have hlow := hexValue?_hexDigit (show b.toNat % 16 < 16 by omega)
  have hvalue : b.toNat / 16 * 16 + b.toNat % 16 = b.toNat := by omega
  simp only [percentByte, List.cons_append, List.nil_append, percentDecode, hhigh, hlow, hvalue,
    UInt8.ofNat_toNat]

theorem percentDecode_percentBytes (bytes : List UInt8) (rest : List Char) :
    percentDecode (bytes.flatMap percentByte ++ rest) = bytes ++ percentDecode rest := by
  induction bytes with
  | nil => rfl
  | cons b bytes ih =>
    rw [List.flatMap_cons, List.append_assoc, percentDecode_percentByte, ih, List.cons_append]

/-- A character other than the percent sign stands for its own bytes. -/
theorem percentDecode_cons {c : Char} (h : c ≠ '%') (rest : List Char) :
    percentDecode (c :: rest) = String.utf8EncodeChar c ++ percentDecode rest := by
  rw [percentDecode]
  rintro _ _ _ rfl
  exact absurd rfl h

/-- The bytes of a text are read off its encoding, if percent signs are encoded too. -/
theorem percentDecode_percentEncode (inSet : Char → Bool) (h : inSet '%' = true)
    (text : List Char) : percentDecode (percentEncode inSet text) = encodeUtf8 text := by
  induction text with
  | nil => rfl
  | cons c text ih =>
    rw [percentEncode] at ih
    rw [percentEncode, encodeUtf8, List.flatMap_cons, List.flatMap_cons]
    split_ifs with hset
    · rw [percentDecode_percentBytes, ih, encodeUtf8]
    · -- What is not encoded is no percent sign, so that it is not taken for an encoding.
      have hc : c ≠ '%' := by
        rintro rfl
        exact hset h
      rw [List.singleton_append, percentDecode_cons hc, ih, encodeUtf8]

/-- A character of an encoded text is a percent sign, a hexadecimal digit or one that need not be
encoded. -/
theorem mem_percentEncode {inSet : Char → Bool} {text : List Char} {c : Char}
    (h : c ∈ percentEncode inSet text) :
    c = '%' ∨ isHexDigit c = true ∨ c ∈ text ∧ inSet c = false := by
  obtain ⟨original, horiginal, hc⟩ := List.mem_flatMap.1 h
  split_ifs at hc with hset
  · obtain ⟨b, -, hbyte⟩ := List.mem_flatMap.1 hc
    exact (isHexDigit_of_mem_percentByte hbyte).imp_right .inl
  · rw [List.mem_singleton] at hc
    subst hc
    exact .inr (.inr ⟨horiginal, by simpa using hset⟩)

end Url

end Footage
