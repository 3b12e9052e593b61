/-!
# UTF-8

Texts as bytes, and bytes as texts. Bytes that are no text are read as replacement characters,
one for each longest start of a character's bytes that is cut short and one for each other byte
out of place.
-/

namespace Footage.Text

/-- The replacement character. -/
def replacement : Char := Char.ofNat 0xFFFD

/-- The bytes of a text. -/
def encodeUtf8 (text : List Char) : List UInt8 :=
  text.flatMap String.utf8EncodeChar

/-- The bounds of the second byte of a character of more than one byte, and how many bytes
follow it, by the first byte. -/
def leadByte? (b : UInt8) : Option (UInt8 × UInt8 × Nat) :=
  if 0xC2 ≤ b ∧ b ≤ 0xDF then some (0x80, 0xBF, 0)
  else if b = 0xE0 then some (0xA0, 0xBF, 1)
  else if b = 0xED then some (0x80, 0x9F, 1)
  else if 0xE1 ≤ b ∧ b ≤ 0xEF then some (0x80, 0xBF, 1)
  else if b = 0xF0 then some (0x90, 0xBF, 2)
  else if 0xF1 ≤ b ∧ b ≤ 0xF3 then some (0x80, 0xBF, 2)
  else if b = 0xF4 then some (0x80, 0x8F, 2)
  else none

/-- The value bits of a byte that continues a character. -/
def tailBits (b : UInt8) : Nat :=
  b.toNat % 64

/-- Whether a byte continues a character. -/
def isTail (b : UInt8) : Bool :=
  0x80 ≤ b && b ≤ 0xBF

/-- The text that bytes denote. Where they denote none, the function `broken` says what to put in
place of the bytes; it is given the text of the remaining bytes. -/
def decodeUtf8With {α : Type} (add : Char → α → α) (broken : α → α) (done : α) :
    List UInt8 → α
  | [] => done
  | b₀ :: rest₀ =>
    if b₀ < 0x80 then add (Char.ofNat b₀.toNat) (decodeUtf8With add broken done rest₀)
    else
      match leadByte? b₀ with
      | none => broken (decodeUtf8With add broken done rest₀)
      | some (low, high, more) =>
        match rest₀ with
        | [] => broken done
        | b₁ :: rest₁ =>
          if low ≤ b₁ ∧ b₁ ≤ high then
            if more = 0 then
              add (Char.ofNat (b₀.toNat % 32 * 64 + tailBits b₁))
                (decodeUtf8With add broken done rest₁)
            else
              match rest₁ with
              | [] => broken done
              | b₂ :: rest₂ =>
                if isTail b₂ then
                  if more = 1 then
                    add (Char.ofNat (b₀.toNat % 16 * 4096 + tailBits b₁ * 64 + tailBits b₂))
                      (decodeUtf8With add broken done rest₂)
                  else
                    match rest₂ with
                    | [] => broken done
                    | b₃ :: rest₃ =>
                      if isTail b₃ then
                        add (Char.ofNat (b₀.toNat % 8 * 262144 + tailBits b₁ * 4096 +
                            tailBits b₂ * 64 + tailBits b₃))
                          (decodeUtf8With add broken done rest₃)
                      else broken (decodeUtf8With add broken done (b₃ :: rest₃))
                else broken (decodeUtf8With add broken done (b₂ :: rest₂))
          else broken (decodeUtf8With add broken done (b₁ :: rest₁))

/-- The text that bytes denote, with replacement characters for bytes that denote none. -/
def decodeUtf8 (bytes : List UInt8) : List Char :=
  decodeUtf8With (· :: ·) (replacement :: ·) [] bytes

/-- The text that bytes denote, if all of them denote one. -/
def decodeUtf8? (bytes : List UInt8) : Option (List Char) :=
  decodeUtf8With (fun c rest => rest.map (c :: ·)) (fun _ => none) (some []) bytes

end Footage.Text
