import GuestBoundary.Proofs.Linking
import GuestBoundary.Proofs.Programs
import GuestBoundary.Proofs.Words

/-! Memory as host programs see it: what a view reads and writes, and that memory never shrinks. -/

namespace GuestBoundary

/-- Two ranges of memory, each by its start and its length, that share no address. -/
def Apart (first firstLength second secondLength : Nat) : Prop :=
  first + firstLength ≤ second ∨ second + secondLength ≤ first

/-- Two ranges of memory, each by its start and its length, share an address. -/
def Overlap (first firstLength second secondLength : Nat) : Prop :=
  ∃ address, (first ≤ address ∧ address < first + firstLength) ∧
    second ≤ address ∧ address < second + secondLength

/-- Of two ranges that are apart, the one ends before the other begins. -/
theorem Apart.not_overlap {first firstLength second secondLength : Nat}
    (apart : Apart first firstLength second secondLength) :
    ¬ Overlap first firstLength second secondLength := by
  rintro ⟨address, inFirst, inSecond⟩
  rcases apart with before | after <;> omega

namespace Region

variable {region memory : Region} {offset : UInt32} {bytes : List UInt8}

/-- A range that lies inside passes the check. -/
theorem checkRange_ok {size : Nat} {offset length : UInt32}
    (inside : offset.toNat + length.toNat ≤ size) : checkRange size offset length = .ok () := by
  rw [checkRange, if_pos inside]

/-- A range that does not lie inside is reported with its numbers. -/
theorem checkRange_error {size : Nat} {offset length : UInt32}
    (outside : size < offset.toNat + length.toNat) :
    checkRange size offset length = .error (.outOfBounds offset.toNat length.toNat size) := by
  rw [checkRange, if_neg (by omega)]

/-- A length that fits a word is the number of that word. -/
theorem toNat_length (short : bytes.length < UInt32.size) :
    (UInt32.ofNat bytes.length).toNat = bytes.length :=
  UInt32.toNat_ofNat_of_lt' short

/-- A length that fits a word is zero for no bytes alone. -/
theorem length_ne_zero (short : bytes.length < UInt32.size) (nonempty : bytes ≠ []) :
    UInt32.ofNat bytes.length ≠ 0 := by
  -- A word that is zero has the number zero, which is the length of no other list.
  intro zero
  have none : bytes.length = 0 := by rw [← toNat_length short, zero]; rfl
  exact nonempty (List.eq_nil_of_length_eq_zero none)

/-- Bytes that fit where they are put are stored. -/
theorem write_inside (short : bytes.length < UInt32.size)
    (inside : offset.toNat + bytes.length ≤ region.size) :
    region.write offset bytes = .ok (region.store offset.toNat bytes) := by
  -- Both checks pass: the length fits a word, and the range fits the region.
  rw [write, if_pos short, checkRange_ok (by rw [toNat_length short]; exact inside)]
  rfl

/-- A write that succeeds has stored its bytes inside the region. -/
theorem write_ok (written : region.write offset bytes = .ok memory) :
    offset.toNat + bytes.length ≤ region.size ∧ memory = region.store offset.toNat bytes := by
  -- A write that fails one of its checks would have been a fault.
  rw [write] at written
  split at written
  · rename_i short
    by_cases inside : offset.toNat + bytes.length ≤ region.size
    · rw [checkRange_ok (by rw [toNat_length short]; exact inside)] at written
      cases written
      exact ⟨inside, rfl⟩
    · rw [checkRange_error (by rw [toNat_length short]; omega)] at written
      cases written
  · cases written

/-- Reading inside a region gives the bytes there. -/
theorem read_inside {length : UInt32} (inside : offset.toNat + length.toNat ≤ region.size) :
    region.read offset length = .ok (region.bytesAt offset.toNat length.toNat) := by
  rw [read, checkRange_ok inside]
  rfl

/-- Reading outside a region fails with the numbers of the access. -/
theorem read_outside {length : UInt32} (outside : region.size < offset.toNat + length.toNat) :
    region.read offset length =
      .error (.outOfBounds offset.toNat length.toNat region.size) := by
  rw [read, checkRange_error outside]
  rfl

/-- A read that succeeds was inside the region and gave the bytes there. -/
theorem read_ok {length : UInt32} (given : region.read offset length = .ok bytes) :
    offset.toNat + length.toNat ≤ region.size ∧
      bytes = region.bytesAt offset.toNat length.toNat := by
  -- Outside, the read would have been a fault.
  by_cases inside : offset.toNat + length.toNat ≤ region.size
  · rw [read_inside inside] at given
    cases given
    exact ⟨inside, rfl⟩
  · rw [read_outside (by omega)] at given
    cases given

@[simp] theorem length_bytesAt (address count : Nat) :
    (region.bytesAt address count).length = count := by
  simp [bytesAt]

/-- The bytes from an address on are known one by one. -/
theorem bytesAt_eq {address : Nat}
    (same : ∀ index (within : index < bytes.length), region.byte (address + index) = bytes[index]) :
    region.bytesAt address bytes.length = bytes := by
  -- Two lists of one length are equal if they agree at every index.
  refine List.ext_getElem (by simp) fun index _ within => ?_
  simpa [bytesAt] using same index within

/-- A byte after a store is the stored one inside the stored range, and what it was elsewhere. -/
theorem byte_store_eq_if (region : Region) (start address : Nat) (bytes : List UInt8) :
    (region.store start bytes).byte address =
      if start ≤ address ∧ address < start + bytes.length then bytes.getD (address - start) 0
      else region.byte address := by
  -- Past the last stored byte, the list of them has nothing to give.
  rw [byte_store]
  by_cases after : start ≤ address
  · by_cases within : address < start + bytes.length
    · rw [if_pos after, if_pos ⟨after, within⟩, List.getD_eq_getElem?_getD,
        List.getD_eq_getElem?_getD, List.getElem?_eq_getElem (by omega)]
      rfl
    · rw [if_pos after, if_neg (by omega), List.getD_eq_getElem?_getD,
        List.getElem?_eq_none (by omega), Option.getD_none]
  · rw [if_neg after, if_neg (by omega)]

/-- Stored bytes read back. -/
theorem bytesAt_store (start : Nat) (bytes : List UInt8) :
    (region.store start bytes).bytesAt start bytes.length = bytes := by
  -- Each of these addresses lies in the stored range, at the distance of its index.
  refine bytesAt_eq fun index within => ?_
  have offset : start + index - start = index := by omega
  rw [byte_store_eq_if, if_pos (by omega), offset, List.getD_eq_getElem?_getD,
    List.getElem?_eq_getElem within, Option.getD_some]

/-- Bytes of a range that shares no address with a stored one are what they were. -/
theorem bytesAt_store_disjoint {start count target : Nat}
    (disjoint : ¬ Overlap start count target bytes.length) :
    (region.store target bytes).bytesAt start count = region.bytesAt start count := by
  refine List.map_congr_left fun address member => ?_
  rw [byte_store_eq_if, if_neg fun inside => disjoint ⟨address, List.mem_range'_1.mp member, inside⟩]

/-- Bytes apart from a stored range are what they were. -/
theorem bytesAt_store_apart {start count target : Nat}
    (apart : Apart start count target bytes.length) :
    (region.store target bytes).bytesAt start count = region.bytesAt start count :=
  bytesAt_store_disjoint apart.not_overlap

@[simp] theorem length_wordBytes (word : UInt32) : (wordBytes word).length = 4 := rfl

end Region

/-- The relation between stores whose memories have not shrunk from the first to the second. -/
def MemoryGrows (store left : Store) : Prop := store.memory.size ≤ left.memory.size

theorem memoryGrows_composes : Run.Composes MemoryGrows where
  refl _ := Nat.le_refl _
  trans := Nat.le_trans

/-- No step of a guest shrinks memory. -/
theorem Wasm.GuestStep.memoryGrows {maxPages : Nat} {store left : Store}
    (step : Wasm.GuestStep maxPages store left) : MemoryGrows store left := by
  -- A write keeps the size, and a growth is one.
  cases step with
  | charge => exact Nat.le_refl _
  | write written =>
    obtain ⟨_, rfl⟩ := Region.write_ok written
    exact Nat.le_of_eq (Region.size_store ..).symm
  | grow larger => exact larger
  | assign => exact Nat.le_refl _

/-- No step of a host changes the size of memory. -/
theorem HostStep.memorySize {store left : Store} (step : HostStep store left) :
    left.memory.size = store.memory.size := by
  cases step with
  | write written =>
    obtain ⟨_, rfl⟩ := Region.write_ok written
    exact Region.size_store ..
  | log => rfl

namespace Context

/-- The context shows the memory that the conventions name. -/
def SeesMemory (context : Context) : Prop :=
  context.showsMemory context.linked.conventions.memoryExport = true

/-- No call that the context makes shrinks memory. -/
def NeverShrinks (context : Context) : Prop := context.CallsKeep MemoryGrows

/-- The view of the memory that the conventions name. -/
def view (context : Context) : View := ⟨context.linked.conventions.memoryExport⟩

variable {context : Context} {α : Type}

/-- Where calls do not shrink memory, no host program does. -/
theorem NeverShrinks.keeps (grows : context.NeverShrinks) (program : Program α) :
    context.Keeps MemoryGrows program :=
  perform_keeps memoryGrows_composes grows (fun step => Nat.le_of_eq step.memorySize.symm)
    (fun _ _ => Nat.le_refl _) program

theorem perform_resolve (sees : context.SeesMemory) (store : Store) :
    context.perform View.resolve store = some (.ok context.view, store) := by
  -- The context answers with a size, and any size will do.
  have shown : context.showsMemory context.linked.conventions.memoryExport = true := sees
  simp only [View.resolve, perform_bind, perform_conventions, perform, answer, shown, if_true]
  rfl

/-- Without the memory that the conventions name, there is no view. -/
theorem perform_resolve_blind (blind : ¬ context.SeesMemory) (store : Store) :
    context.perform View.resolve store =
      some (.error (.invalidModule (.memoryMissing context.linked.conventions.memoryExport)),
        store) := by
  have hidden : context.showsMemory context.linked.conventions.memoryExport = false := by
    simpa [SeesMemory] using blind
  simp [View.resolve, perform_bind, perform, answer, hidden]

theorem perform_size (sees : context.SeesMemory) (store : Store) :
    context.perform context.view.size store = some (.ok store.memory.size, store) := by
  have shown : context.showsMemory context.view.memory = true := sees
  simp [View.size, perform, answer, shown]

theorem perform_read (sees : context.SeesMemory) (offset length : UInt32) (store : Store) :
    context.perform (context.view.read offset length) store =
      some (store.memory.read offset length, store) := by
  have shown : context.showsMemory context.view.memory = true := sees
  simp [View.read, perform, answer, memory, shown, Except.bind]

/-- A write through the view changes memory, unless it is out of bounds. -/
theorem perform_write (sees : context.SeesMemory) (offset : UInt32) (bytes : List UInt8)
    (store : Store) :
    context.perform (context.view.write offset bytes) store =
      match store.memory.write offset bytes with
      | .ok memory => some (.ok (), { store with memory })
      | .error fault => some (.error fault, store) := by
  -- The reply is the outcome of the write, and the program ends with it.
  have shown : context.showsMemory context.view.memory = true := sees
  simp only [View.write, perform, answer, memory, shown, if_true, Except.bind]
  cases store.memory.write offset bytes <;> rfl

end Context

/-- The calls of a running instance never shrink memory, however deep they go. -/
theorem Linked.context_neverShrinks (linked : Linked) (patience depth : Nat) (visible : Bool)
    (self : String) : (linked.context patience depth visible self).NeverShrinks :=
  Linked.call_keeps memoryGrows_composes linked patience (fun step => step.memoryGrows)
    (fun _ _ _ calls _ => Context.NeverShrinks.keeps calls _) depth .host

/-- A linked guest shows its host the memory that the conventions name. -/
theorem Linked.context_seesMemory {settings : Settings} {registry : Registry}
    {guest : Wasm.Module} {linked : Linked}
    (links : Linked.link settings registry guest = .ok linked)
    (patience depth : Nat) (self : String) :
    (linked.context patience depth true self).SeesMemory :=
  Linked.link_memory links

end GuestBoundary
