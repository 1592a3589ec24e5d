import GuestBoundary.Proofs.Memory
import GuestBoundary.Proofs.Sample
import Mathlib.Data.Nat.Digits.Lemmas

/-! Access to a region is exact: a read is a slice of its bytes, a write puts bytes in the place of as many,
and an access that does not fit changes nothing. -/

namespace GuestBoundary

/-- A list with bytes in the place of as many from an offset on. -/
def splice (whole : List UInt8) (offset : Nat) (bytes : List UInt8) : List UInt8 :=
  whole.take offset ++ bytes ++ whole.drop (offset + bytes.length)

/-- The end of a range is a sum of two words that 64 bits always hold. -/
theorem toNat_rangeEnd (offset length : UInt32) :
    (offset.toUInt64 + length.toUInt64).toNat = offset.toNat + length.toNat := by
  have start := offset.toNat_lt
  have count := length.toNat_lt
  rw [UInt64.toNat_add, UInt32.toNat_toUInt64, UInt32.toNat_toUInt64]
  omega

/-- A range passes the check exactly if its end is within the size. -/
theorem checkRange_ok_iff {size : Nat} {offset length : UInt32} :
    checkRange size offset length = .ok () ↔ offset.toNat + length.toNat ≤ size := by
  rw [checkRange]
  split <;> simp_all

/-- As many bytes as a word has, read from the low one up, are the digits of its number to the base 256. -/
theorem toNat_wordOfBytes {bytes : List UInt8} (short : bytes.length ≤ 4) :
    (wordOfBytes bytes).toNat = Nat.ofDigits 256 (bytes.map UInt8.toNat) := by
  induction bytes with
  | nil => rfl
  | cons byte rest ih =>
    rw [List.length_cons] at short
    -- The later bytes are few enough that shifting them by one loses nothing.
    have later := ih (by omega)
    have digits : ∀ digit ∈ rest.map UInt8.toNat, digit < 256 := by
      intro digit member
      obtain ⟨other, _, rfl⟩ := List.mem_map.mp member
      exact other.toNat_lt
    have small := Nat.ofDigits_lt_base_pow_length (by decide) digits
    have room : (wordOfBytes rest).toNat * 256 < UInt32.size := by
      rw [later]
      calc Nat.ofDigits 256 (rest.map UInt8.toNat) * 256
          < 256 ^ (rest.map UInt8.toNat).length * 256 := by omega
        _ ≤ 256 ^ 3 * 256 := by
          refine Nat.mul_le_mul_right _ (Nat.pow_le_pow_right (by decide) ?_)
          rw [List.length_map]
          omega
        _ = UInt32.size := rfl
    change ((wordOfBytes rest <<< 8) ||| byte.toUInt32).toNat = _
    rw [toNat_shift_or_byte byte room, later, List.map_cons, Nat.ofDigits_cons]
    omega

/-- The bytes of a word, from the low one up, are the digits of its number to the base 256. -/
theorem ofDigits_wordBytes (word : UInt32) :
    Nat.ofDigits 256 ((wordBytes word).map UInt8.toNat) = word.toNat := by
  rw [← toNat_wordOfBytes (Region.length_wordBytes word).le, wordOfBytes_wordBytes]

namespace Region

/-- The region that an attempt to overwrite bytes leaves: the same one if it is refused. -/
def overwritten (region : Region) (offset : UInt32) (bytes : List UInt8) : Region :=
  match region.write offset bytes with
  | .ok memory => memory
  | .error _ => region

/-- Bytes can be written: their number is a word, and they lie inside. -/
def Fits (region : Region) (offset : UInt32) (bytes : List UInt8) : Prop :=
  bytes.length < UInt32.size ∧ offset.toNat + bytes.length ≤ region.size

variable {region memory : Region} {offset other : UInt32} {bytes others : List UInt8}

@[simp] theorem length_toList (region : Region) : region.toList.length = region.size :=
  length_bytesAt ..

/-- Bytes from an address on are those up to a point and those from there on. -/
theorem bytesAt_append (region : Region) (address count more : Nat) :
    region.bytesAt address (count + more) =
      region.bytesAt address count ++ region.bytesAt (address + count) more := by
  rw [bytesAt, bytesAt, bytesAt, ← List.map_append, List.range'_append_1]

/-- All bytes of a region, cut at an address inside it. -/
theorem toList_cut (region : Region) {address : Nat} (inside : address ≤ region.size) :
    region.toList = region.bytesAt 0 address ++ region.bytesAt address (region.size - address) := by
  have cut := region.bytesAt_append 0 address (region.size - address)
  rwa [Nat.add_sub_cancel' inside, Nat.zero_add] at cut

theorem take_toList {address : Nat} (inside : address ≤ region.size) :
    region.toList.take address = region.bytesAt 0 address := by
  rw [region.toList_cut inside, List.take_left' (length_bytesAt ..)]

theorem drop_toList {address : Nat} (inside : address ≤ region.size) :
    region.toList.drop address = region.bytesAt address (region.size - address) := by
  rw [region.toList_cut inside, List.drop_left' (length_bytesAt ..)]

/-- The bytes of a range inside a region are a slice of all of them. -/
theorem slice_toList {address count : Nat} (inside : address + count ≤ region.size) :
    (region.toList.drop address).take count = region.bytesAt address count := by
  have rest : region.size - address = count + (region.size - address - count) := by omega
  rw [drop_toList (by omega), rest, bytesAt_append, List.take_left' (length_bytesAt ..)]

/-- A store inside a region puts the bytes in the place of as many. -/
theorem toList_store {address : Nat} (inside : address + bytes.length ≤ region.size) :
    (region.store address bytes).toList = splice region.toList address bytes := by
  -- Before the bytes and after them, memory is as it was.
  have before : (region.store address bytes).bytesAt 0 address = region.bytesAt 0 address :=
    bytesAt_store_apart (.inl (by omega))
  have after (count : Nat) : (region.store address bytes).bytesAt (address + bytes.length) count =
      region.bytesAt (address + bytes.length) count := bytesAt_store_apart (.inr (Nat.le_refl _))
  have size : region.size = address + bytes.length + (region.size - (address + bytes.length)) := by
    omega
  rw [splice, take_toList (by omega), drop_toList inside, toList, size_store]
  conv_lhs => rw [size]
  rw [bytesAt_append, bytesAt_append, Nat.zero_add, Nat.zero_add, before, bytesAt_store, after]

/-- A read gives a slice of the bytes of a region, if the slice lies inside. -/
theorem read_ok_iff {length : UInt32} :
    region.read offset length = .ok bytes ↔
      offset.toNat + length.toNat ≤ region.size ∧
        bytes = (region.toList.drop offset.toNat).take length.toNat := by
  constructor
  · intro given
    obtain ⟨inside, rfl⟩ := read_ok given
    exact ⟨inside, (slice_toList inside).symm⟩
  · rintro ⟨inside, rfl⟩
    rw [slice_toList inside, read_inside inside]

/-- What a write of bytes at an offset leaves of a region. -/
structure Written (region memory : Region) (offset : UInt32) (bytes : List UInt8) : Prop where
  size : memory.size = region.size
  /-- The bytes are in the place of as many, and all others are what they were. -/
  spliced : memory.toList = splice region.toList offset.toNat bytes
  readBack : memory.read offset (.ofNat bytes.length) = .ok bytes
  /-- What shares no address with the bytes reads as before, or is refused as before. -/
  framed :
    ∀ (other length : UInt32), ¬ Overlap other.toNat length.toNat offset.toNat bytes.length →
      memory.read other length = region.read other length

/-- Bytes that fit are written. -/
theorem write_fits (fits : region.Fits offset bytes) :
    region.write offset bytes = .ok (region.store offset.toNat bytes) :=
  write_inside fits.1 fits.2

/-- Bytes that do not fit are refused with the numbers of the access. -/
theorem write_refused (refused : ¬ region.Fits offset bytes) :
    region.write offset bytes = .error (.outOfBounds offset.toNat bytes.length region.size) := by
  rw [write]
  split
  · -- The number of bytes is a word, so it is the range that does not fit.
    rename_i short
    have outside : region.size < offset.toNat + (UInt32.ofNat bytes.length).toNat := by
      rw [toNat_length short]
      exact Nat.lt_of_not_le fun inside => refused ⟨short, inside⟩
    rw [checkRange_error outside, toNat_length short]
    rfl
  · rfl

/-- Bytes that fit are written, and nothing else changes. -/
theorem written_store (fits : region.Fits offset bytes) :
    region.Written (region.store offset.toNat bytes) offset bytes where
  size := size_store ..
  spliced := toList_store fits.2
  readBack := by
    have count := toNat_length fits.1
    rw [read_inside (by rw [count, size_store]; exact fits.2), count, bytesAt_store]
  framed other length disjoint := by
    -- Whether a read is refused depends on the size alone.
    rw [read, read, size_store, bytesAt_store_disjoint disjoint]

theorem overwritten_fits (fits : region.Fits offset bytes) :
    region.overwritten offset bytes = region.store offset.toNat bytes := by
  rw [overwritten, write_fits fits]

theorem overwritten_refused (refused : ¬ region.Fits offset bytes) :
    region.overwritten offset bytes = region := by
  rw [overwritten, write_refused refused]

/-- No attempt to overwrite bytes changes the size. -/
@[simp] theorem size_overwritten (region : Region) (offset : UInt32) (bytes : List UInt8) :
    (region.overwritten offset bytes).size = region.size := by
  by_cases fits : region.Fits offset bytes
  · rw [overwritten_fits fits, size_store]
  · rw [overwritten_refused fits]

/-- Whether bytes fit does not depend on what a region holds. -/
theorem fits_overwritten : (region.overwritten other others).Fits offset bytes ↔
    region.Fits offset bytes := by
  rw [Fits, size_overwritten, Fits]

/-- What a write comes to does not depend on what a region holds. -/
theorem write_overwritten (region : Region) (offset other : UInt32) (bytes others : List UInt8) :
    ((region.overwritten other others).write offset bytes).map (fun _ => ()) =
      (region.write offset bytes).map fun _ => () := by
  by_cases fits : region.Fits offset bytes
  · rw [write_fits fits, write_fits (fits_overwritten.mpr fits)]
    rfl
  · rw [write_refused fits, write_refused (mt fits_overwritten.mp fits), size_overwritten]

/-- A byte after an attempt to overwrite is a new one where the attempt was not refused and covers it. -/
theorem byte_overwritten [Decidable (region.Fits offset bytes)] (address : Nat) :
    (region.overwritten offset bytes).byte address =
      if region.Fits offset bytes ∧ offset.toNat ≤ address ∧ address < offset.toNat + bytes.length then
        bytes.getD (address - offset.toNat) 0
      else region.byte address := by
  by_cases fits : region.Fits offset bytes
  · simp only [overwritten_fits fits, byte_store_eq_if, fits, true_and]
  · simp only [overwritten_refused fits, fits, false_and, if_false]

/-- Attempts to overwrite ranges that share no address leave the same bytes in either order. -/
theorem overwritten_comm
    (disjoint : ¬ Overlap offset.toNat bytes.length other.toNat others.length) :
    ((region.overwritten offset bytes).overwritten other others).toList =
      ((region.overwritten other others).overwritten offset bytes).toList := by
  classical
  rw [toList, toList, size_overwritten, size_overwritten, size_overwritten, size_overwritten]
  refine List.map_congr_left fun address _ => ?_
  -- At any address at most one of the two attempts has had an effect.
  simp only [byte_overwritten, fits_overwritten]
  split
  · rename_i second
    rw [if_neg fun first => disjoint ⟨address, first.2, second.2⟩]
  · rfl

/-- A word that has been written reads back. -/
theorem readWord_writeWord {word : UInt32} (written : region.writeWord offset word = .ok memory) :
    memory.readWord offset = .ok word := by
  obtain ⟨inside, rfl⟩ := write_ok written
  have held : offset.toNat + (4 : UInt32).toNat ≤ (region.store offset.toNat (wordBytes word)).size := by
    rw [size_store]
    exact inside
  have bytes : (region.store offset.toNat (wordBytes word)).bytesAt offset.toNat (4 : UInt32).toNat =
      wordBytes word := bytesAt_store offset.toNat (wordBytes word)
  rw [readWord, read_inside held, bytes]
  exact congrArg Except.ok (wordOfBytes_wordBytes word)

/-- A word is read as the number whose digits are the four bytes at its offset. -/
theorem readWord_ok_iff {word : UInt32} :
    region.readWord offset = .ok word ↔
      offset.toNat + 4 ≤ region.size ∧
        word.toNat = Nat.ofDigits 256 (((region.toList.drop offset.toNat).take 4).map UInt8.toNat) := by
  have number (inside : offset.toNat + 4 ≤ region.size) :
      (wordOfBytes (region.bytesAt offset.toNat 4)).toNat =
        Nat.ofDigits 256 (((region.toList.drop offset.toNat).take 4).map UInt8.toNat) := by
    rw [slice_toList inside, toNat_wordOfBytes (length_bytesAt ..).le]
  constructor
  · intro given
    obtain ⟨slice, read, same⟩ := except_bind_ok_iff.mp given
    obtain ⟨inside, rfl⟩ := read_ok read
    cases same
    exact ⟨inside, number inside⟩
  · rintro ⟨inside, digits⟩
    have read : region.read offset 4 = .ok (region.bytesAt offset.toNat 4) := read_inside inside
    have found : wordOfBytes (region.bytesAt offset.toNat 4) = word :=
      UInt32.toNat_inj.mp ((number inside).trans digits.symm)
    rw [readWord, read, ← found]
    rfl

end Region

namespace Context

variable {context : Context}

/-- A word is read through a view as memory holds it. -/
theorem perform_readWord (sees : context.SeesMemory) (offset : UInt32) (store : Store) :
    context.perform (context.view.readWord offset) store =
      some (store.memory.readWord offset, store) := by
  rw [View.readWord, perform_bind, perform_read sees, Region.readWord]
  cases store.memory.read offset 4 <;> rfl

/-- A write through a view comes to what a write to memory does, and leaves memory overwritten. -/
theorem perform_write_overwritten (sees : context.SeesMemory) (offset : UInt32) (bytes : List UInt8)
    (store : Store) :
    context.perform (context.view.write offset bytes) store =
      some ((store.memory.write offset bytes).map fun _ => (),
        { store with memory := store.memory.overwritten offset bytes }) := by
  rw [perform_write sees, Region.overwritten]
  cases store.memory.write offset bytes <;> rfl

end Context

/--
Access to a region is exact, framed and atomic.

A range passes the check exactly if its end is within the size, for every size that 64 bits hold; the end is
a sum that never wraps, so the check is the same in machine words. A read gives a slice of the bytes of the
region, of the full length, exactly if its range lies inside. Bytes are written exactly if their number is a
word and they lie inside: they take the place of as many, read back, and leave what shares no address with
them as it was; otherwise they are refused with the numbers of the access and the region stays as it is.
Attempts to write ranges that share no address come to the same and leave the same bytes in either order. A
word is read and written as the four bytes that are the digits of its number, the low one first, and reads
back. Through the view of a running instance all this is done to its memory, and to nothing else.
-/
theorem Region.access_exact (region : Region) (offset : UInt32) :
    (∀ (size : UInt64) (length : UInt32),
      (offset.toUInt64 + length.toUInt64).toNat = offset.toNat + length.toNat ∧
      (checkRange size.toNat offset length = .ok () ↔
        offset.toNat + length.toNat ≤ size.toNat) ∧
      (checkRange size.toNat offset length = .ok () ↔
        offset.toUInt64 + length.toUInt64 ≤ size)) ∧
    (∀ (length : UInt32) bytes, region.read offset length = .ok bytes ↔
      offset.toNat + length.toNat ≤ region.size ∧ bytes.length = length.toNat ∧
        bytes = (region.toList.drop offset.toNat).take length.toNat) ∧
    (∀ bytes, bytes.length < UInt32.size ∧ offset.toNat + bytes.length ≤ region.size →
      ∃ memory, region.write offset bytes = .ok memory ∧ region.Written memory offset bytes) ∧
    (∀ bytes, ¬ (bytes.length < UInt32.size ∧ offset.toNat + bytes.length ≤ region.size) →
      region.write offset bytes = .error (.outOfBounds offset.toNat bytes.length region.size) ∧
      region.overwritten offset bytes = region) ∧
    (∀ bytes (other : UInt32) others,
      ((region.overwritten other others).write offset bytes).map (fun _ => ()) =
        (region.write offset bytes).map (fun _ => ()) ∧
      (¬ Overlap offset.toNat bytes.length other.toNat others.length →
        ((region.overwritten offset bytes).overwritten other others).toList =
          ((region.overwritten other others).overwritten offset bytes).toList)) ∧
    (∀ word,
      (region.readWord offset = .ok word ↔ offset.toNat + 4 ≤ region.size ∧
        word.toNat = Nat.ofDigits 256 (((region.toList.drop offset.toNat).take 4).map UInt8.toNat)) ∧
      region.writeWord offset word = region.write offset (wordBytes word) ∧
      (wordBytes word).length = 4 ∧
      Nat.ofDigits 256 ((wordBytes word).map UInt8.toNat) = word.toNat ∧
      ∀ memory, region.writeWord offset word = .ok memory → memory.readWord offset = .ok word) ∧
    ∀ context : Context, context.SeesMemory → ∀ store, store.memory = region →
      (∀ length, context.perform (context.view.read offset length) store =
        some (region.read offset length, store)) ∧
      context.perform (context.view.readWord offset) store = some (region.readWord offset, store) ∧
      (∀ bytes, context.perform (context.view.write offset bytes) store =
        some ((region.write offset bytes).map (fun _ => ()),
          { store with memory := region.overwritten offset bytes })) ∧
      ∀ word, context.perform (context.view.writeWord offset word) store =
        some ((region.writeWord offset word).map (fun _ => ()),
          { store with memory := region.overwritten offset (wordBytes word) }) := by
  refine ⟨fun size length => ⟨toNat_rangeEnd offset length, checkRange_ok_iff, ?_⟩,
    fun length bytes => ?_, fun bytes fits => ⟨_, write_fits fits, written_store fits⟩,
    fun bytes refused => ⟨write_refused refused, overwritten_refused refused⟩,
    fun bytes other others => ⟨write_overwritten region offset other bytes others, overwritten_comm⟩,
    fun word => ⟨readWord_ok_iff, rfl, rfl, ofDigits_wordBytes word, fun memory => readWord_writeWord⟩, ?_⟩
  · rw [checkRange_ok_iff, UInt64.le_iff_toNat_le, toNat_rangeEnd]
  · -- A slice that lies inside is never cut short.
    rw [read_ok_iff]
    refine and_congr_right fun inside => ⟨fun slice => ⟨?_, slice⟩, And.right⟩
    rw [slice, slice_toList inside, length_bytesAt]
  · rintro context sees store rfl
    exact ⟨fun length => Context.perform_read sees offset length store,
      Context.perform_readWord sees offset store,
      fun bytes => Context.perform_write_overwritten sees offset bytes store,
      fun word => Context.perform_write_overwritten sees offset (wordBytes word) store⟩

/-- The last two of six bytes are overwritten, and one byte further on it is refused. A write next to them
changes places with it. The largest offset is out of bounds for a running instance, whose memory stays. -/
theorem Region.access_exact_edges :
    let region := Region.ofList [1, 2, 3, 4, 5, 6]
    let store := (Sample.inst Sample.descend).store
    (∃ memory, region.write 4 [7, 8] = .ok memory ∧ region.Written memory 4 [7, 8]) ∧
      region.write 5 [7, 8] = .error (.outOfBounds 5 2 6) ∧
      ((region.overwritten 4 [7, 8]).overwritten 1 [9, 9, 9]).toList =
        ((region.overwritten 1 [9, 9, 9]).overwritten 4 [7, 8]).toList ∧
      (∀ memory, region.writeWord 2 0x80000001 = .ok memory → memory.readWord 2 = .ok 0x80000001) ∧
      (Sample.context Sample.descend).perform
          ((Sample.context Sample.descend).view.write 0xFFFFFFFF [7]) store =
        some (.error (.outOfBounds 0xFFFFFFFF 1 65536), store) := by
  intro region store
  obtain ⟨-, -, writes, -, swaps, -⟩ := Region.access_exact region 4
  obtain ⟨-, -, -, refuses, -⟩ := Region.access_exact region 5
  obtain ⟨-, -, -, -, -, words, -⟩ := Region.access_exact region 2
  obtain ⟨-, -, -, -, -, -, views⟩ := Region.access_exact store.memory 0xFFFFFFFF
  have sees : (Sample.context Sample.descend).SeesMemory := rfl
  refine ⟨writes [7, 8] (by decide), (refuses [7, 8] (by decide)).1, (swaps [7, 8] 1 [9, 9, 9]).2 ?_,
    (words 0x80000001).2.2.2.2, ?_⟩
  · rintro ⟨address, first, second⟩
    simp at first second
    omega
  · obtain ⟨-, -, written, -⟩ := views _ sees store rfl
    exact written [7]

end GuestBoundary
