import GuestBoundary.Region

/-! Words as bytes and spans as words: what is written in one form reads back from it. -/

namespace GuestBoundary

/-- Shifting a byte in multiplies by the number of bytes and adds the new one. -/
theorem toNat_shift_or_byte {high : UInt32} (byte : UInt8)
    (room : high.toNat * 256 < UInt32.size) :
    ((high <<< 8) ||| byte.toUInt32).toNat = high.toNat * 256 + byte.toNat := by
  -- The shifted word leaves eight zero bits, which the byte fills.
  have small : byte.toNat < 2 ^ 8 := byte.toNat_lt
  have shifted : (high <<< 8).toNat = high.toNat <<< 8 := by
    rw [UInt32.toNat_shiftLeft, Nat.mod_eq_of_lt]
    · rfl
    · rw [Nat.shiftLeft_eq]
      exact room
  rw [UInt32.toNat_or, shifted, UInt8.toNat_toUInt32, ← Nat.shiftLeft_add_eq_or_of_lt small,
    Nat.shiftLeft_eq]

/-- A word written as little-endian bytes reads back. -/
theorem wordOfBytes_wordBytes (word : UInt32) : wordOfBytes (wordBytes word) = word := by
  apply UInt32.toNat_inj.mp
  have bound := word.toNat_lt
  -- The four bytes are the digits of the word to the base 256.
  have digit (count : Nat) : word.toNat >>> count % 2 ^ 8 = word.toNat / 2 ^ count % 256 := by
    simp only [Nat.shiftRight_eq_div_pow, Nat.reducePow]
  have first : word.toUInt8.toNat = word.toNat % 256 := UInt32.toNat_toUInt8 word
  have second : (word >>> 8).toUInt8.toNat = word.toNat / 2 ^ 8 % 256 := by
    rw [UInt32.toNat_toUInt8, UInt32.toNat_shiftRight]; exact digit 8
  have third : (word >>> 16).toUInt8.toNat = word.toNat / 2 ^ 16 % 256 := by
    rw [UInt32.toNat_toUInt8, UInt32.toNat_shiftRight]; exact digit 16
  have fourth : (word >>> 24).toUInt8.toNat = word.toNat / 2 ^ 24 % 256 := by
    rw [UInt32.toNat_toUInt8, UInt32.toNat_shiftRight]; exact digit 24
  simp only [wordOfBytes, wordBytes, List.foldr_cons, List.foldr_nil]
  have one : ((0 : UInt32) <<< 8 ||| (word >>> 24).toUInt8.toUInt32).toNat =
      (0 : UInt32).toNat * 256 + (word >>> 24).toUInt8.toNat :=
    toNat_shift_or_byte (word >>> 24).toUInt8 (by decide)
  have two := toNat_shift_or_byte (word >>> 16).toUInt8 (by rw [one, fourth]; simp [UInt32.size]; omega)
  have three := toNat_shift_or_byte (word >>> 8).toUInt8
    (by rw [two, one, third, fourth]; simp [UInt32.size]; omega)
  rw [toNat_shift_or_byte word.toUInt8
      (by rw [three, two, one, second, third, fourth]; simp [UInt32.size]; omega),
    three, two, one, first, second, third, fourth]
  simp
  omega

namespace Span

/-- A span in a word has its pointer as the high half and its length as the low one. -/
theorem toNat_packed (span : Span) :
    span.packed.toNat = span.pointer.toNat * UInt32.size + span.length.toNat := by
  -- The pointer is shifted out of the way of the length, and neither has more than 32 bits.
  have pointer := span.pointer.toNat_lt
  have length := span.length.toNat_lt
  have shifted : (span.pointer.toUInt64 <<< 32).toNat = span.pointer.toNat <<< 32 := by
    rw [UInt64.toNat_shiftLeft, UInt32.toNat_toUInt64, Nat.mod_eq_of_lt]
    · rfl
    · change span.pointer.toNat <<< 32 < 2 ^ 64
      rw [Nat.shiftLeft_eq]
      omega
  rw [packed, UInt64.toNat_or, shifted, UInt32.toNat_toUInt64,
    ← Nat.shiftLeft_add_eq_or_of_lt length, Nat.shiftLeft_eq]

/-- A span written as one word reads back. -/
@[simp] theorem ofPacked_packed (span : Span) : ofPacked span.packed = span := by
  -- Shifting the word down leaves the pointer, and cutting it off leaves the length.
  have whole := span.toNat_packed
  rw [UInt32.size] at whole
  have pointer := span.pointer.toNat_lt
  have length := span.length.toNat_lt
  have high : (span.packed >>> 32).toUInt32 = span.pointer := by
    apply UInt32.toNat_inj.mp
    rw [UInt64.toNat_toUInt32, UInt64.toNat_shiftRight, whole]
    change (span.pointer.toNat * 4294967296 + span.length.toNat) >>> 32 % 2 ^ 32 = _
    rw [Nat.shiftRight_eq_div_pow]
    omega
  have low : span.packed.toUInt32 = span.length := by
    apply UInt32.toNat_inj.mp
    rw [UInt64.toNat_toUInt32, whole]
    omega
  rw [ofPacked, high, low]

/-- Every word is the word of the span in it. -/
@[simp] theorem packed_ofPacked (word : UInt64) : (ofPacked word).packed = word := by
  -- A word is its quotient by two to the 32 and the remainder.
  have bound := word.toNat_lt
  have high : (word >>> 32).toUInt32.toNat = word.toNat / 2 ^ 32 := by
    rw [UInt64.toNat_toUInt32, UInt64.toNat_shiftRight]
    change word.toNat >>> 32 % 2 ^ 32 = _
    rw [Nat.shiftRight_eq_div_pow]
    omega
  apply UInt64.toNat_inj.mp
  rw [toNat_packed, ofPacked, high, UInt64.toNat_toUInt32, UInt32.size]
  omega

/-- A result list carries a span in a form exactly if it reads back as that span. -/
theorem ofForm?_eq_some_iff {form : ResultForm} {values : List Value} {span : Span} :
    ofForm? form values = some span ↔ values = span.results form := by
  -- One list of each form is accepted, and it is the one that is written.
  constructor
  · intro read
    unfold ofForm? at read
    split at read
    · cases read
      simp [results]
    · cases read
      rfl
    · cases read
  · rintro rfl
    cases form with
    | packed => exact congrArg some span.ofPacked_packed
    | pair => rfl

/-- Different spans are carried by different result lists. -/
theorem results_injective (form : ResultForm) : (fun span => results span form).Injective :=
  fun _ _ same => Option.some.inj
    ((ofForm?_eq_some_iff.mpr rfl).symm.trans (ofForm?_eq_some_iff.mpr same))

end Span

end GuestBoundary
