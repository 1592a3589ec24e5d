import GuestBoundary.Proofs.Entries
import GuestBoundary.Proofs.Sample

/-! Copying in: bytes go to exactly the span that the allocator has given for them, and there is never a
failure to clean up after. -/

namespace GuestBoundary

open Program

namespace Context

variable {context : Context} {bytes : List UInt8} {store : Store}

/-- Bytes that go to a given allocation are written, since its span was held against memory as it is then,
and copying them in gives that allocation. -/
theorem copyIn_of_allocated (short : bytes.length < UInt32.size) {buffer : Buffer} {allocated : Store}
    (given : context.perform (allocate (UInt32.ofNat bytes.length)) store =
      some (.ok buffer, allocated)) :
    let placed : Store :=
      { allocated with memory := allocated.memory.store buffer.pointer.toNat bytes }
    context.perform (context.view.write buffer.pointer bytes) allocated = some (.ok (), placed) ∧
      context.perform (copyIn bytes) store = some (.ok buffer, placed) := by
  have sees := allocate_sees given
  obtain ⟨_, _, inside, _⟩ := allocate_bytes sees short given
  exact ⟨by rw [perform_write sees, Region.write_inside short inside],
    by rw [perform_copyIn sees short, given]⟩

/-- Memory is looked for before anything else. -/
theorem perform_copyIn_blind (blind : ¬ context.SeesMemory) (short : bytes.length < UInt32.size) :
    context.perform (copyIn bytes) store =
      some (.error (.invalidModule (.memoryMissing context.linked.conventions.memoryExport)),
        store) := by
  rw [copyIn, if_pos short, perform_bind, perform_resolve_blind blind]

theorem entries_copyIn_blind (blind : ¬ context.SeesMemory) (short : bytes.length < UInt32.size) :
    context.entries (copyIn bytes) store = [] := by
  rw [copyIn, if_pos short, entries_bind, perform_resolve_blind blind, List.append_nil,
    entries_quiet quiet_resolve]

/-- Bytes are copied in only by way of an allocation of their length. -/
theorem copyIn_allocates (short : bytes.length < UInt32.size) {buffer : Buffer} {left : Store}
    (copied : context.perform (copyIn bytes) store = some (.ok buffer, left)) :
    ∃ allocated, context.perform (allocate (UInt32.ofNat bytes.length)) store =
        some (.ok buffer, allocated) ∧
      left = { allocated with memory := allocated.memory.store buffer.pointer.toNat bytes } := by
  -- Whatever else copying in comes to, it is no buffer.
  by_cases sees : context.SeesMemory
  · rw [perform_copyIn sees short] at copied
    split at copied
    · cases copied
    · rename_i given
      cases copied
      exact ⟨_, given, rfl⟩
    · cases copied
  · rw [perform_copyIn_blind sees short] at copied
    cases copied

/-- Where copying in fails, nothing has happened, or the store is as the allocator has left it. -/
theorem copyIn_failed (short : bytes.length < UInt32.size) {fault : Fault} {left : Store}
    (failed : context.perform (copyIn bytes) store = some (.error fault, left)) :
    (left = store ∧ context.entries (copyIn bytes) store = []) ∨
      ∃ answer, context.invoke context.linked.conventions.allocExport
        [.i32 (UInt32.ofNat bytes.length)] store = some (answer, left) := by
  by_cases sees : context.SeesMemory
  · rw [perform_copyIn sees short] at failed
    split at failed
    · cases failed
    · cases failed
    · rename_i allocated
      cases failed
      -- An allocation of no bytes fails before the allocator is asked.
      by_cases zero : UInt32.ofNat bytes.length = 0
      · rw [allocate, if_pos zero] at allocated
        cases allocated
        exact .inl ⟨rfl, by rw [entries_copyIn sees short, entries_allocate, if_pos zero]⟩
      · exact .inr (allocate_left sees zero allocated)
  · rw [perform_copyIn_blind sees short] at failed
    cases failed
    exact .inl ⟨rfl, entries_copyIn_blind sees short⟩

/-- Copying in enters the allocator at most, and once. -/
theorem entries_copyIn_le (short : bytes.length < UInt32.size) :
    context.entries (copyIn bytes) store = [] ∨
      ∃ entry, context.prepare context.linked.conventions.allocExport
          [.i32 (UInt32.ofNat bytes.length)] = .ok entry ∧
        context.entries (copyIn bytes) store = [entry] := by
  by_cases sees : context.SeesMemory
  · rw [entries_copyIn sees short, entries_allocate]
    split
    · exact .inl rfl
    · cases prepared : context.prepare context.linked.conventions.allocExport
          [.i32 (UInt32.ofNat bytes.length)] with
      | error fault => exact .inl rfl
      | ok entry => exact .inr ⟨entry, rfl, rfl⟩
  · exact .inl (entries_copyIn_blind sees short)

end Context

/--
Copying in places exactly the bytes, or nothing, whatever the allocator does.

In every context, on every store and for any bytes whose number fits a word: a buffer that is given is the
host's and as long as the bytes; its span is what the allocator has answered, the store is the one that the
allocator has left with the bytes in that span and nowhere else, and an immediate read gives them back.
On a failure nothing has happened, or the store is the one that the allocator has left. The write into a
given allocation always succeeds, so the allocator is all that is ever entered.
-/
theorem Context.copyIn_places (context : Context) {bytes : List UInt8}
    (short : bytes.length < UInt32.size) (store : Store) :
    (∀ buffer left, context.perform (copyIn bytes) store = some (.ok buffer, left) →
      buffer.owner = .hostOwned ∧ buffer.length.toNat = bytes.length ∧
      ∃ allocated memory,
        context.invoke context.linked.conventions.allocExport [.i32 buffer.length] store =
          some (.ok [.i32 buffer.pointer], allocated) ∧
        left = { allocated with memory } ∧ memory.size = allocated.memory.size ∧
        (∀ address, memory.byte address =
          if buffer.pointer.toNat ≤ address ∧ address < buffer.pointer.toNat + bytes.length then
            bytes.getD (address - buffer.pointer.toNat) 0
          else allocated.memory.byte address) ∧
        context.perform (readBytes buffer.span) left = some (.ok bytes, left)) ∧
    (∀ fault left, context.perform (copyIn bytes) store = some (.error fault, left) →
      (left = store ∧ context.entries (copyIn bytes) store = []) ∨
        ∃ answer, context.invoke context.linked.conventions.allocExport
          [.i32 (UInt32.ofNat bytes.length)] store = some (answer, left)) ∧
    (∀ buffer allocated,
      context.perform (allocate (UInt32.ofNat bytes.length)) store = some (.ok buffer, allocated) →
      ∃ placed,
        context.perform (context.view.write buffer.pointer bytes) allocated =
          some (.ok (), placed) ∧
        context.perform (copyIn bytes) store = some (.ok buffer, placed)) ∧
    (context.entries (copyIn bytes) store = [] ∨
      ∃ entry, context.prepare context.linked.conventions.allocExport
          [.i32 (UInt32.ofNat bytes.length)] = .ok entry ∧
        context.entries (copyIn bytes) store = [entry]) := by
  refine ⟨fun buffer left copied => ?_, fun fault left failed => copyIn_failed short failed,
    fun buffer allocated given => ⟨_, copyIn_of_allocated short given⟩, entries_copyIn_le short⟩
  obtain ⟨allocated, given, rfl⟩ := copyIn_allocates short copied
  have sees := allocate_sees given
  obtain ⟨owned, counted, inside, invoked⟩ := allocate_bytes sees short given
  obtain ⟨_, held⟩ := copyIn_ok sees copied
  refine ⟨owned, counted, allocated, _, invoked, rfl, Region.size_store _ _ _,
    fun address => Region.byte_store_eq_if _ _ address bytes, ?_⟩
  -- The read finds the same memory, and its span is that of the buffer.
  rw [readBytes, perform_bind, perform_resolve sees]
  exact (perform_read sees _ _ _).trans (by rw [← held]; rfl)

/-- Three bytes go to the start of what the allocator hands out, and read back from there. -/
theorem Context.copyIn_places_bump :
    ([1, 2, 3] : List UInt8).length < UInt32.size ∧
      ∃ left, (Sample.context Sample.descend).perform (copyIn [1, 2, 3])
          (Sample.inst Sample.descend).store = some (.ok ⟨⟨16, 3⟩, .hostOwned⟩, left) ∧
        (∀ address, left.memory.byte address =
          if 16 ≤ address ∧ address < 16 + 3 then [1, 2, 3].getD (address - 16) 0
          else (Sample.inst Sample.descend).store.memory.byte address) ∧
        (Sample.context Sample.descend).perform (readBytes ⟨16, 3⟩) left =
          some (.ok [1, 2, 3], left) := by
  have short : ([1, 2, 3] : List UInt8).length < UInt32.size := by decide
  obtain ⟨left, copied⟩ : ∃ left, (Sample.context Sample.descend).perform (copyIn [1, 2, 3])
      (Sample.inst Sample.descend).store = some (.ok ⟨⟨16, 3⟩, .hostOwned⟩, left) := ⟨_, rfl⟩
  obtain ⟨_, _, allocated, memory, invoked, rfl, _, bytes, read⟩ :=
    (Context.copyIn_places (Sample.context Sample.descend) short
      (Sample.inst Sample.descend).store).1 _ left copied
  refine ⟨short, _, copied, fun address => ?_, read⟩
  -- The allocator itself only moves its global.
  cases invoked
  exact bytes address

end GuestBoundary
