/-! UTF-8: the bytes of a text, and the text of any bytes with broken sequences replaced. -/

namespace GuestBoundary

namespace Utf8

/-- The UTF-8 bytes of characters. -/
def encodeChars (characters : List Char) : List UInt8 :=
  characters.flatMap String.utf8EncodeChar

/-- The UTF-8 bytes of a text. -/
def encode (text : String) : List UInt8 := encodeChars text.toList

/-- The character that stands for a broken sequence. -/
def replacement : Char := '\ufffd'

/-- What may come next while bytes are decoded one by one. -/
inductive Expected where
  /-- The first byte of a character. -/
  | lead
  /-- A later byte between two bounds, then more of them, with the bits gathered so far. -/
  | tail (low high : UInt8) (more : Nat) (bits : Nat)
  deriving DecidableEq

/-- A first byte: the character it is, or what it announces, or a broken sequence. -/
def first (byte : UInt8) : Expected × List Char :=
  let value := byte.toNat
  if value < 0x80 then (.lead, [Char.ofNat value])
  else if value < 0xC2 then (.lead, [replacement])
  else if value < 0xE0 then (.tail 0x80 0xBF 0 (value - 0xC0), [])
  -- The bounds of the second byte exclude overlong forms, surrogates and values past the last plane.
  else if value = 0xE0 then (.tail 0xA0 0xBF 1 0, [])
  else if value = 0xED then (.tail 0x80 0x9F 1 0xD, [])
  else if value < 0xF0 then (.tail 0x80 0xBF 1 (value - 0xE0), [])
  else if value = 0xF0 then (.tail 0x90 0xBF 2 0, [])
  else if value < 0xF4 then (.tail 0x80 0xBF 2 (value - 0xF0), [])
  else if value = 0xF4 then (.tail 0x80 0x8F 2 4, [])
  else (.lead, [replacement])

/-- One byte: what may come next and the characters that are now decided. -/
def step (expected : Expected) (byte : UInt8) : Expected × List Char :=
  match expected with
  | .lead => first byte
  | .tail low high more bits =>
    if low ≤ byte ∧ byte ≤ high then
      let bits := bits * 64 + (byte.toNat - 0x80)
      match more with
      | 0 => (.lead, [Char.ofNat bits])
      | more + 1 => (.tail 0x80 0xBF more bits, [])
    else
      -- The sequence broke before this byte, which starts afresh.
      let (next, characters) := first byte
      (next, replacement :: characters)

/-- Decode bytes one by one, the characters so far in reverse. -/
def run (expected : Expected) (reversed : List Char) : List UInt8 → List Char
  | [] =>
    match expected with
    | .lead => reversed.reverse
    | .tail .. => (replacement :: reversed).reverse
  | byte :: rest =>
    let (next, characters) := step expected byte
    run next (characters.reverse ++ reversed) rest

/-- The characters of bytes, each longest broken sequence replaced by one character. -/
def decodeChars (bytes : List UInt8) : List Char := run .lead [] bytes

/-- The text of bytes, each longest broken sequence replaced by one character. -/
def decode (bytes : List UInt8) : String := String.ofList (decodeChars bytes)

end Utf8

end GuestBoundary
