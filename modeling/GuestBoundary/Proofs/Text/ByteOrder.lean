import GuestBoundary.Text.Utf8

/-! The bytes of a character in numbers, and the order of texts: by characters it is the order by bytes. -/

namespace GuestBoundary

namespace Utf8

/-- The bytes of the character of a number, by how many there are. -/
inductive CharBytes (value : Nat) : List UInt8 → Prop
  | one {byte : UInt8} (high : value < 0x80) (lead : byte.toNat = value) : CharBytes value [byte]
  | two {byte last : UInt8} (low : 0x80 ≤ value) (high : value < 0x800)
      (lead : byte.toNat = 0xC0 + value / 64) (second : last.toNat = 0x80 + value % 64) :
      CharBytes value [byte, last]
  | three {byte middle last : UInt8} (low : 0x800 ≤ value) (high : value < 0x10000)
      (lead : byte.toNat = 0xE0 + value / 4096) (second : middle.toNat = 0x80 + value / 64 % 64)
      (third : last.toNat = 0x80 + value % 64) : CharBytes value [byte, middle, last]
  | four {byte next middle last : UInt8} (low : 0x10000 ≤ value) (high : value < 0x110000)
      (lead : byte.toNat = 0xF0 + value / 262144) (second : next.toNat = 0x80 + value / 4096 % 64)
      (third : middle.toNat = 0x80 + value / 64 % 64) (fourth : last.toNat = 0x80 + value % 64) :
      CharBytes value [byte, next, middle, last]

/-- A byte that is made from a number has that number. -/
theorem toNat_byte {number value : Nat} (same : number = value) (small : value < 256) :
    (UInt8.ofNat number).toNat = value := by
  rw [same, UInt8.toNat_ofNat_of_lt' small]

/-- The encoding of a character is that of its number. -/
theorem charBytes (character : Char) : CharBytes character.toNat (String.utf8EncodeChar character) := by
  have bound : character.toNat < 0x110000 := by
    have valid := character.valid
    simp only [UInt32.isValidChar, Nat.isValidChar] at valid
    change character.val.toNat < 0x110000
    omega
  unfold String.utf8EncodeChar
  simp only [Char.toNat] at bound ⊢
  generalize character.val.toNat = value at bound ⊢
  -- The leading byte has room for what is left of the number, so nothing is cut off.
  split
  · exact .one (by omega) (toNat_byte rfl (by omega))
  · split
    · exact .two (by omega) (by omega) (toNat_byte (by omega) (by omega))
        (toNat_byte (by omega) (by omega))
    · split
      · exact .three (by omega) (by omega) (toNat_byte (by omega) (by omega))
          (toNat_byte (by omega) (by omega)) (toNat_byte (by omega) (by omega))
      · exact .four (by omega) bound (toNat_byte (by omega) (by omega))
          (toNat_byte (by omega) (by omega)) (toNat_byte (by omega) (by omega))
          (toNat_byte (by omega) (by omega))

/-- Every character has a byte. -/
theorem CharBytes.ne_nil {value : Nat} {bytes : List UInt8} (encoded : CharBytes value bytes) :
    bytes ≠ [] := by
  cases encoded <;> exact nofun

/-- A number has one encoding. -/
theorem CharBytes.unique {value : Nat} {bytes others : List UInt8} (one : CharBytes value bytes)
    (other : CharBytes value others) : bytes = others := by
  cases one <;> cases other <;>
    simp only [List.cons.injEq, ← UInt8.toNat_inj, and_true, reduceCtorEq, and_false] <;> omega

/-- Of two characters the smaller one has the smaller bytes, whatever follows either. -/
theorem CharBytes.lt {first second : Nat} {bytes others : List UInt8} (less : first < second)
    (one : CharBytes first bytes) (other : CharBytes second others) (rest after : List UInt8) :
    bytes ++ rest < others ++ after := by
  cases one <;> cases other <;>
    simp only [List.cons_append, List.nil_append, List.cons_lt_cons_iff, UInt8.lt_iff_toNat_lt,
      ← UInt8.toNat_inj] <;> omega

/-- Characters in order have bytes in order. -/
theorem encodeChars_lt {first second : List Char} (less : first < second) :
    encodeChars first < encodeChars second := by
  induction first generalizing second with
  | nil =>
    -- The second list has a character, and every character has a byte.
    cases second with
    | nil => exact absurd less (List.lt_irrefl [])
    | cons character rest =>
      obtain ⟨byte, more, bytes⟩ := List.exists_cons_of_ne_nil (charBytes character).ne_nil
      rw [encodeChars, encodeChars, List.flatMap_cons, bytes]
      exact List.nil_lt_cons ..
  | cons character rest ih =>
    cases second with
    | nil => exact absurd less (List.not_lt_nil _)
    | cons other others =>
      rw [encodeChars, encodeChars, List.flatMap_cons, List.flatMap_cons]
      rcases List.cons_lt_cons_iff.mp less with smaller | ⟨rfl, later⟩
      · exact (charBytes character).lt (Char.lt_def.mp smaller) (charBytes other) _ _
      · exact List.append_left_lt (ih later)

/-- The order of texts is the order of their bytes. -/
theorem lt_iff_encode_lt {first second : String} : first < second ↔ encode first < encode second := by
  constructor
  · exact encodeChars_lt
  · -- Were the first text not before the second, it would be the same or after it, bytes included.
    intro less
    refine Decidable.byContradiction fun unordered => ?_
    by_cases same : second = first
    · exact List.lt_irrefl _ (same ▸ less)
    · have after : second < first := Std.lt_of_le_of_ne (String.not_lt.mp unordered) same
      exact List.lt_asymm less (encodeChars_lt after)

end Utf8

end GuestBoundary
