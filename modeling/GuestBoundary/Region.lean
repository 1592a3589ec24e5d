import GuestBoundary.Fault
import Std.Data.TreeMap

/-! Byte regions with checked access: no operation reads or writes past the end, or grows a region. -/

namespace GuestBoundary

/-- Fail unless the bytes from an offset, of a length, lie inside a size. -/
def checkRange (size : Nat) (offset length : UInt32) : Except Fault Unit :=
  if offset.toNat + length.toNat ≤ size then .ok ()
  else .error (.outOfBounds offset.toNat length.toNat size)

/-- A region of bytes, sparse: a byte that was never stored is zero. -/
structure Region where
  size : Nat
  stored : Std.TreeMap Nat UInt8

namespace Region

/-- A region of zeros. -/
def zeros (size : Nat) : Region := ⟨size, ∅⟩

/-- The byte at an address. -/
def byte (region : Region) (address : Nat) : UInt8 := region.stored.getD address 0

/-- The bytes from an address on, of a count. -/
def bytesAt (region : Region) (address count : Nat) : List UInt8 :=
  (List.range' address count).map region.byte

/-- All bytes, in order. -/
def toList (region : Region) : List UInt8 := region.bytesAt 0 region.size

/-- Store bytes one after another from an address on. -/
def store (region : Region) (address : Nat) : List UInt8 → Region
  | [] => region
  | byte :: rest =>
    store { region with stored := region.stored.insert address byte } (address + 1) rest

/-- The region that holds exactly the given bytes. -/
def ofList (bytes : List UInt8) : Region := (zeros bytes.length).store 0 bytes

/-- The same bytes followed by zeros up to a larger size. -/
def grow (region : Region) (size : Nat) : Region := { region with size }

/-- Copy bytes out of a region. -/
def read (region : Region) (offset length : UInt32) : Except Fault (List UInt8) := do
  checkRange region.size offset length
  return region.bytesAt offset.toNat length.toNat

/-- Overwrite bytes of a region; nothing is written unless all of them fit. -/
def write (region : Region) (offset : UInt32) (bytes : List UInt8) : Except Fault Region :=
  -- A length is a 32-bit word, so longer data is refused with its true length.
  if bytes.length < UInt32.size then do
    checkRange region.size offset (UInt32.ofNat bytes.length)
    return region.store offset.toNat bytes
  else .error (.outOfBounds offset.toNat bytes.length region.size)

end Region

/-- The four little-endian bytes of a word. -/
def wordBytes (word : UInt32) : List UInt8 :=
  [word.toUInt8, (word >>> 8).toUInt8, (word >>> 16).toUInt8, (word >>> 24).toUInt8]

/-- The word with the given little-endian bytes. -/
def wordOfBytes (bytes : List UInt8) : UInt32 :=
  bytes.foldr (fun byte high => (high <<< 8) ||| byte.toUInt32) 0

namespace Region

/-- Read a little-endian word. -/
def readWord (region : Region) (offset : UInt32) : Except Fault UInt32 :=
  return wordOfBytes (← region.read offset 4)

/-- Overwrite a word, little-endian. -/
def writeWord (region : Region) (offset word : UInt32) : Except Fault Region :=
  region.write offset (wordBytes word)

/-- Storing bytes keeps the size. -/
@[simp] theorem size_store (region : Region) (address : Nat) (bytes : List UInt8) :
    (region.store address bytes).size = region.size := by
  induction bytes generalizing region address with
  | nil => rfl
  | cons byte rest ih => rw [store, ih]

/-- After a store, an address holds its new byte if it was covered and its old byte otherwise. -/
theorem byte_store (region : Region) (start address : Nat) (bytes : List UInt8) :
    (region.store start bytes).byte address =
      if start ≤ address then bytes.getD (address - start) (region.byte address)
      else region.byte address := by
  induction bytes generalizing region start with
  | nil => simp [store]
  | cons byte rest ih =>
    rw [store, ih]
    by_cases same : start = address
    · -- The first byte lands here and the rest lies beyond.
      subst same
      have rest_beyond : ¬ start + 1 ≤ start := by omega
      simp [Region.byte, rest_beyond]
    · -- The first byte lands elsewhere, so the rest decides.
      have elsewhere : Region.byte ⟨region.size, region.stored.insert start byte⟩ address =
          region.byte address := by
        simp [Region.byte, Std.TreeMap.getD_insert, same]
      rw [elsewhere]
      by_cases before : start ≤ address
      · have after : start + 1 ≤ address := by omega
        obtain ⟨gap, rfl⟩ : ∃ gap, address = start + 1 + gap := ⟨address - (start + 1), by omega⟩
        have shifted : start + 1 + gap - start = gap + 1 := by omega
        simp [after, before, shifted]
      · have after : ¬ start + 1 ≤ address := by omega
        simp [after, before]

end Region

end GuestBoundary
