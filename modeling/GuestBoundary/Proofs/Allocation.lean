import GuestBoundary.Proofs.Memory
import GuestBoundary.Program.Transfer

/-! Allocation in a context that sees memory: what the allocator's answer gives, and that bytes
copied into an allocation always fit. -/

namespace GuestBoundary

open Program

/-- The buffer that an allocator's result list gives in memory of a size. -/
def allocation (length : UInt32) (size : Nat) : List Value → Except Fault Buffer
  | [.i32 pointer] =>
    if pointer = 0 then .error (.allocationFailed length .null)
    else if pointer.toNat + length.toNat ≤ size then .ok ⟨⟨pointer, length⟩, .hostOwned⟩
    else .error (.allocationFailed length (.outOfBounds pointer))
  | values => .error (.allocationFailed length (.wrongResults values))

/-- A result list gives a buffer exactly if it is one pointer to a span inside memory. -/
theorem allocation_ok_iff {length : UInt32} {size : Nat} {values : List Value} {buffer : Buffer} :
    allocation length size values = .ok buffer ↔
      ∃ pointer : UInt32, values = [.i32 pointer] ∧ pointer ≠ 0 ∧
        pointer.toNat + length.toNat ≤ size ∧ buffer = ⟨⟨pointer, length⟩, .hostOwned⟩ := by
  -- Every other list, a null pointer and a span that reaches outside are faults.
  constructor
  · intro given
    unfold allocation at given
    split at given
    · rename_i pointer
      split at given
      · cases given
      · rename_i nonzero
        split at given
        · rename_i inside
          cases given
          exact ⟨pointer, rfl, nonzero, inside, rfl⟩
        · cases given
    · cases given
  · rintro ⟨pointer, rfl, nonzero, inside, rfl⟩
    simp only [allocation, if_neg nonzero, if_pos inside]

namespace Context

variable {context : Context}

theorem perform_allocated (sees : context.SeesMemory) (length : UInt32) (values : List Value)
    (store : Store) :
    context.perform (allocated length values) store =
      some (allocation length store.memory.size values, store) := by
  -- Only the size of memory is asked for, so the store stays as it is.
  unfold allocated
  split
  · rename_i pointer
    by_cases null : pointer = 0
    · simp [allocation, null]
    · simp only [allocation, if_neg null, perform_bind, perform_resolve sees, perform_size sees]
      by_cases inside : pointer.toNat + length.toNat ≤ store.memory.size
      · rw [if_pos inside, Region.checkRange_ok inside]; rfl
      · rw [if_neg inside, Region.checkRange_error (by omega)]; rfl
  · simp [allocation]

/-- Allocation asks the allocator once and adds nothing to the store that its run leaves. -/
theorem perform_allocate (sees : context.SeesMemory) {length : UInt32} (positive : length ≠ 0)
    (store : Store) :
    context.perform (allocate length) store =
      match context.invoke context.linked.conventions.allocExport [.i32 length] store with
      | none => none
      | some (.ok values, left) => some (allocation length left.memory.size values, left)
      | some (.error fault, left) =>
        some (.error (allocatorFault length context.linked.conventions.allocExport fault),
          left) := by
  -- The allocator runs once, and what it answers decides without another change.
  simp only [allocate, if_neg positive, perform_bind, perform_conventions, perform_attempt,
    perform_invoke]
  rcases context.invoke context.linked.conventions.allocExport [.i32 length] store with
    _ | ⟨_ | values, left⟩
  · rfl
  · rfl
  · exact perform_allocated sees length values left

/-- However an allocation ends, its store is the one that the allocator's own run left. -/
theorem allocate_left (sees : context.SeesMemory) {length : UInt32} (positive : length ≠ 0)
    {store left : Store} {outcome : Except Fault Buffer}
    (performed : context.perform (allocate length) store = some (outcome, left)) :
    ∃ answer, context.invoke context.linked.conventions.allocExport [.i32 length] store =
      some (answer, left) := by
  -- The allocator's answer is only looked at after it has run.
  rw [perform_allocate sees positive] at performed
  cases invoked : context.invoke context.linked.conventions.allocExport [.i32 length] store with
  | none => simp [invoked] at performed
  | some ended =>
    obtain ⟨_ | values, stopped⟩ := ended
    · simp only [invoked, Option.some.injEq, Prod.mk.injEq] at performed
      exact ⟨_, by rw [performed.2]⟩
    · simp only [invoked, Option.some.injEq, Prod.mk.injEq] at performed
      exact ⟨_, by rw [performed.2]⟩

/-- An allocation that succeeds has a positive length, and the allocator answered one pointer to a
span of that length inside the memory that it left. -/
theorem allocate_ok (sees : context.SeesMemory) {length : UInt32} {store left : Store}
    {buffer : Buffer}
    (given : context.perform (allocate length) store = some (.ok buffer, left)) :
    length ≠ 0 ∧ buffer = ⟨⟨buffer.pointer, length⟩, .hostOwned⟩ ∧ buffer.pointer ≠ 0 ∧
      buffer.pointer.toNat + length.toNat ≤ left.memory.size ∧
      context.invoke context.linked.conventions.allocExport [.i32 length] store =
        some (.ok [.i32 buffer.pointer], left) := by
  -- An allocation of no bytes is refused before the allocator is asked.
  by_cases zero : length = 0
  · simp [allocate, zero] at given
  · rw [perform_allocate sees zero] at given
    split at given
    · cases given
    · rename_i invoked
      simp only [Option.some.injEq, Prod.mk.injEq] at given
      obtain ⟨answer, rfl⟩ := given
      obtain ⟨pointer, rfl, nonzero, inside, rfl⟩ := allocation_ok_iff.mp answer
      exact ⟨zero, rfl, nonzero, inside, invoked⟩
    · cases given

/-- An allocation for bytes is as long as they are, and it lies inside the memory that the allocator
left. -/
theorem allocate_bytes (sees : context.SeesMemory) {bytes : List UInt8}
    (short : bytes.length < UInt32.size) {store left : Store} {buffer : Buffer}
    (given : context.perform (allocate (UInt32.ofNat bytes.length)) store =
      some (.ok buffer, left)) :
    buffer.owner = .hostOwned ∧ buffer.length.toNat = bytes.length ∧
      buffer.pointer.toNat + bytes.length ≤ left.memory.size ∧
      context.invoke context.linked.conventions.allocExport [.i32 buffer.length] store =
        some (.ok [.i32 buffer.pointer], left) := by
  -- The length of the bytes fits a word, so nothing is lost when it is asked for.
  obtain ⟨_, whole, _, inside, invoked⟩ := allocate_ok sees given
  have length : buffer.length = UInt32.ofNat bytes.length := congrArg Buffer.length whole
  rw [Region.toNat_length short] at inside
  rw [← length] at invoked
  refine ⟨congrArg Buffer.owner whole, ?_, inside, invoked⟩
  rw [length, Region.toNat_length short]

/-- Copying in stores the bytes in an allocation of their length. The bytes always fit there, so
nothing is ever released. -/
theorem perform_copyIn (sees : context.SeesMemory) {bytes : List UInt8}
    (short : bytes.length < UInt32.size) (store : Store) :
    context.perform (copyIn bytes) store =
      match context.perform (allocate (UInt32.ofNat bytes.length)) store with
      | none => none
      | some (.ok buffer, left) =>
        some (.ok buffer,
          { left with memory := left.memory.store buffer.pointer.toNat bytes })
      | some (.error fault, left) => some (.error fault, left) := by
  -- The allocator's answer was checked against memory as it is when the bytes are written.
  simp only [copyIn, if_pos short, perform_bind, perform_resolve sees]
  cases given : context.perform (allocate (UInt32.ofNat bytes.length)) store with
  | none => rfl
  | some ended =>
    obtain ⟨outcome, left⟩ := ended
    cases outcome with
    | error fault => rfl
    | ok buffer =>
      obtain ⟨_, _, inside, _⟩ := allocate_bytes sees short given
      simp only [perform_attempt, perform_write sees, Region.write_inside short inside]
      rfl

/-- Bytes that were copied in fill a span that the host owns, and read back from it. -/
theorem copyIn_ok (sees : context.SeesMemory) {bytes : List UInt8} {store placed : Store}
    {buffer : Buffer}
    (copied : context.perform (copyIn bytes) store = some (.ok buffer, placed)) :
    buffer.owner = .hostOwned ∧ placed.memory.read buffer.pointer buffer.length = .ok bytes := by
  -- Bytes that are too many for a word are refused at once.
  by_cases short : bytes.length < UInt32.size
  · rw [perform_copyIn sees short] at copied
    split at copied
    · cases copied
    · rename_i allocated answered
      cases copied
      obtain ⟨owned, counted, inside, _⟩ := allocate_bytes sees short answered
      refine ⟨owned, ?_⟩
      rw [Region.read_inside (by rw [Region.size_store, counted]; exact inside), counted,
        Region.bytesAt_store]
    · cases copied
  · rw [copyIn, if_neg short] at copied
    cases copied

/-- What a release does with a buffer that the host owns: without a deallocator nothing, and otherwise
one call of it, with the arguments that its declared arity takes. -/
theorem perform_release {buffer : Buffer} (owned : buffer.owner = .hostOwned) (store : Store) :
    context.perform (release buffer) store =
      match context.linked.conventions.freeExport with
      | none => some (.ok (), store)
      | some deallocator =>
        match context.function? deallocator with
        | none => some (.ok (), store)
        | some (_, type) =>
          match type.signature? with
          | none => 
            some (.error (.signatureMismatch deallocator (.exportNotInteger type)), store)
          | some declared =>
            match deallocatorArguments deallocator buffer declared.arity with
            | .error fault => some (.error fault, store)
            | .ok arguments =>
              match context.invoke deallocator arguments store with
              | none => none
              | some (.ok _, left) => some (.ok (), left)
              | some (.error fault, left) => some (.error fault, left) := by
  -- The deallocator is looked up, then its arity decides the arguments, then it is called.
  have checked : buffer.checkRelease = .ok () := by rw [Buffer.checkRelease, owned]
  rw [release, checked]
  simp only [perform_bind, perform_settle, perform_conventions]
  cases context.linked.conventions.freeExport with
  | none => rfl
  | some deallocator =>
    simp only [perform_bind, perform_hasExport]
    cases found : context.function? deallocator with
    | none => rfl
    | some function =>
      obtain ⟨id, type⟩ := function
      simp only [Option.isSome_some, if_true, perform_bind, perform_signature, found]
      cases type.signature? with
      | none => rfl
      | some declared =>
        simp only [perform_settle]
        cases deallocatorArguments deallocator buffer declared.arity with
        | error fault => rfl
        | ok arguments =>
          simp only [perform_invoke]
          rcases context.invoke deallocator arguments store with _ | ⟨_ | _, _⟩ <;> rfl

end Context

end GuestBoundary
