import GuestBoundary.Proofs.Allocation
import GuestBoundary.Proofs.Sample

/-! Delivery through out slots: it fails before the host writes anything, or memory ends up exactly
as the payload and the two words of its span leave it. -/

namespace GuestBoundary

open Program

/-- The byte at an address after a delivery into a memory. The length slot is written last and the
payload first, so where they overlap the slots win. -/
def Region.delivered (before : Region) (span : Span) (bytes : List UInt8)
    (pointerSlot lengthSlot : UInt32) (address : Nat) : UInt8 :=
  if lengthSlot.toNat ≤ address ∧ address < lengthSlot.toNat + 4 then
    (wordBytes span.length).getD (address - lengthSlot.toNat) 0
  else if pointerSlot.toNat ≤ address ∧ address < pointerSlot.toNat + 4 then
    (wordBytes span.pointer).getD (address - pointerSlot.toNat) 0
  else if span.pointer.toNat ≤ address ∧ address < span.pointer.toNat + bytes.length then
    bytes.getD (address - span.pointer.toNat) 0
  else before.byte address

namespace Region

/-- The memory after a delivery: the payload, then the pointer, then the length. -/
def deliver (before : Region) (span : Span) (bytes : List UInt8)
    (pointerSlot lengthSlot : UInt32) : Region :=
  ((before.store span.pointer.toNat bytes).store pointerSlot.toNat (wordBytes span.pointer)).store
    lengthSlot.toNat (wordBytes span.length)

variable (before : Region) (span : Span) (bytes : List UInt8) (pointerSlot lengthSlot : UInt32)

@[simp] theorem size_deliver :
    (before.deliver span bytes pointerSlot lengthSlot).size = before.size := by
  simp [deliver]

/-- Every byte after a delivery is the one that the last write to its address put there. -/
theorem byte_deliver (address : Nat) :
    (before.deliver span bytes pointerSlot lengthSlot).byte address =
      before.delivered span bytes pointerSlot lengthSlot address := by
  -- The writes are looked at from the last one back.
  simp only [deliver, delivered, byte_store_eq_if, length_wordBytes]

variable {before span bytes pointerSlot lengthSlot}

/-- Where the slots and the span share no address, both slots and the span read back. -/
theorem read_deliver (pointerInside : pointerSlot.toNat + 4 ≤ before.size)
    (lengthInside : lengthSlot.toNat + 4 ≤ before.size)
    (spanInside : span.pointer.toNat + span.length.toNat ≤ before.size)
    (whole : span.length.toNat = bytes.length)
    (slotsApart : Apart pointerSlot.toNat 4 lengthSlot.toNat 4)
    (pointerApart : Apart span.pointer.toNat bytes.length pointerSlot.toNat 4)
    (lengthApart : Apart span.pointer.toNat bytes.length lengthSlot.toNat 4) :
    let after := before.deliver span bytes pointerSlot lengthSlot
    after.readWord pointerSlot = .ok span.pointer ∧ after.readWord lengthSlot = .ok span.length ∧
      after.read span.pointer span.length = .ok bytes := by
  -- What a later write leaves alone is read as the earlier one put it.
  have readWord {region : Region} {offset word : UInt32} (inside : offset.toNat + 4 ≤ region.size)
      (held : region.bytesAt offset.toNat 4 = wordBytes word) :
      region.readWord offset = .ok word := by
    have four : (4 : UInt32).toNat = 4 := rfl
    rw [Region.readWord, read_inside (by rw [four]; exact inside), four, held]
    exact congrArg Except.ok (wordOfBytes_wordBytes word)
  refine ⟨readWord (by simpa using pointerInside) ?_, readWord (by simpa using lengthInside) ?_, ?_⟩
  · rw [deliver, bytesAt_store_apart (by simpa using slotsApart)]
    exact bytesAt_store _ (wordBytes span.pointer)
  · rw [deliver]
    exact bytesAt_store _ (wordBytes span.length)
  · rw [read_inside (by simpa using spanInside), whole, deliver,
      bytesAt_store_apart (by simpa using lengthApart),
      bytesAt_store_apart (by simpa using pointerApart), bytesAt_store]

end Region

namespace Context

variable {context : Context}

/-- A word is written wherever its four bytes fit. -/
theorem perform_writeWord (sees : context.SeesMemory) {offset word : UInt32} {store : Store}
    (inside : offset.toNat + 4 ≤ store.memory.size) :
    context.perform (context.view.writeWord offset word) store =
      some (.ok (),
        { store with memory := store.memory.store offset.toNat (wordBytes word) }) := by
  -- A word has four bytes, which is no length that a write refuses.
  have short : (wordBytes word).length < UInt32.size := by rw [Region.length_wordBytes]; decide
  rw [View.writeWord, perform_write sees, Region.write_inside short inside]

/-- Whatever the functions of the instance do, nothing happens before both slots are checked. -/
theorem perform_writeOutSlots_refused (bytes : List UInt8) {pointerSlot lengthSlot : UInt32}
    {store : Store}
    (refused : ¬ context.SeesMemory ∨ store.memory.size < pointerSlot.toNat + 4 ∨
      store.memory.size < lengthSlot.toNat + 4) :
    ∃ fault, ∀ call, ({ context with call } : Context).perform
      (writeOutSlots bytes pointerSlot lengthSlot) store = some (.error fault, store) := by
  -- The checks only look at what the context shows and at the size of memory.
  have four : (4 : UInt32).toNat = 4 := rfl
  by_cases sees : context.SeesMemory
  · have shown (call) : ({ context with call } : Context).SeesMemory := sees
    by_cases pointerOut : store.memory.size < pointerSlot.toNat + 4
    · have outside : store.memory.size < pointerSlot.toNat + (4 : UInt32).toNat := pointerOut
      refine ⟨.outOfBounds pointerSlot.toNat 4 store.memory.size, fun call => ?_⟩
      simp only [writeOutSlots, perform_bind, perform_resolve (shown call),
        perform_size (shown call), perform_settle, Region.checkRange_error outside, four]
    · have outside : store.memory.size < lengthSlot.toNat + (4 : UInt32).toNat :=
        (refused.resolve_left (not_not_intro sees)).resolve_left pointerOut
      have inside : pointerSlot.toNat + (4 : UInt32).toNat ≤ store.memory.size := by omega
      refine ⟨.outOfBounds lengthSlot.toNat 4 store.memory.size, fun call => ?_⟩
      simp only [writeOutSlots, perform_bind, perform_resolve (shown call),
        perform_size (shown call), perform_settle, Region.checkRange_ok inside,
        Region.checkRange_error outside, four]
  · refine ⟨.invalidModule (.memoryMissing context.linked.conventions.memoryExport), fun call => ?_⟩
    have blind : ¬ ({ context with call } : Context).SeesMemory := sees
    simp only [writeOutSlots, perform_bind, perform_resolve_blind blind]

/-- With both slots in bounds, an empty payload needs no allocation. -/
theorem perform_writeOutSlots_nil (sees : context.SeesMemory) {pointerSlot lengthSlot : UInt32}
    {store : Store} (pointerInside : pointerSlot.toNat + 4 ≤ store.memory.size)
    (lengthInside : lengthSlot.toNat + 4 ≤ store.memory.size) :
    context.perform (writeOutSlots [] pointerSlot lengthSlot) store =
      some (.ok ⟨⟨0, 0⟩, .guestOwned⟩,
        { store with memory := store.memory.deliver ⟨0, 0⟩ [] pointerSlot lengthSlot }) := by
  -- Both slots passed the check, and the first write does not change the size of memory.
  have pointerRange : pointerSlot.toNat + (4 : UInt32).toNat ≤ store.memory.size := pointerInside
  have lengthRange : lengthSlot.toNat + (4 : UInt32).toNat ≤ store.memory.size := lengthInside
  simp only [writeOutSlots, perform_bind, perform_resolve sees, perform_size sees, perform_settle,
    Region.checkRange_ok pointerRange, Region.checkRange_ok lengthRange, if_true,
    perform_writeWord sees pointerInside]
  rw [perform_writeWord sees (by simpa using lengthInside)]
  rfl

/-- With both slots in bounds, a delivery fails exactly as its allocation does. Otherwise both slots
are still in bounds after the allocator has run, so nothing can fail once bytes are written. -/
theorem perform_writeOutSlots_cons (sees : context.SeesMemory) (grows : context.NeverShrinks)
    {bytes : List UInt8} (short : bytes.length < UInt32.size) (nonempty : bytes ≠ [])
    {pointerSlot lengthSlot : UInt32} {store : Store}
    (pointerInside : pointerSlot.toNat + 4 ≤ store.memory.size)
    (lengthInside : lengthSlot.toNat + 4 ≤ store.memory.size) :
    context.perform (writeOutSlots bytes pointerSlot lengthSlot) store =
      match context.perform (allocate (UInt32.ofNat bytes.length)) store with
      | none => none
      | some (.ok buffer, left) =>
        some (.ok buffer.intoGuest,
          { left with
            memory := left.memory.deliver buffer.span bytes pointerSlot lengthSlot })
      | some (.error fault, left) => some (.error fault, left) := by
  -- The allocator runs between the check of the slots and their writes, but memory only grows.
  have pointerRange : pointerSlot.toNat + (4 : UInt32).toNat ≤ store.memory.size := pointerInside
  have lengthRange : lengthSlot.toNat + (4 : UInt32).toNat ≤ store.memory.size := lengthInside
  simp only [writeOutSlots, perform_bind, perform_resolve sees, perform_size sees, perform_settle,
    Region.checkRange_ok pointerRange, Region.checkRange_ok lengthRange, if_neg nonempty,
    perform_copyIn sees short]
  cases given : context.perform (allocate (UInt32.ofNat bytes.length)) store with
  | none => rfl
  | some ended =>
    obtain ⟨outcome, left⟩ := ended
    cases outcome with
    | error fault => rfl
    | ok buffer =>
      have grown : store.memory.size ≤ left.memory.size := grows.keeps _ store _ left given
      simp only
      rw [perform_writeWord sees (by simpa using Nat.le_trans pointerInside grown)]
      simp only
      rw [perform_writeWord sees (by simpa using Nat.le_trans lengthInside grown)]
      rfl

/--
Delivery through out slots is all or nothing, whatever the guest's functions do short of shrinking
memory.

A slot out of bounds is refused before any of them runs. Any other failure leaves what the
allocator's own run left. A success leaves memory as the three writes in their order do, and where
the slots and the span are apart the guest reads all three back.
-/
theorem writeOutSlots_all_or_nothing (grows : context.NeverShrinks) {bytes : List UInt8}
    (short : bytes.length < UInt32.size) (pointerSlot lengthSlot : UInt32) (store : Store) :
    (¬ context.SeesMemory ∨ store.memory.size < pointerSlot.toNat + 4 ∨
        store.memory.size < lengthSlot.toNat + 4 →
      ∃ fault, ∀ call, ({ context with call } : Context).perform
        (writeOutSlots bytes pointerSlot lengthSlot) store = some (.error fault, store)) ∧
    (context.SeesMemory → pointerSlot.toNat + 4 ≤ store.memory.size →
        lengthSlot.toNat + 4 ≤ store.memory.size →
      (bytes = [] → ∀ call, ({ context with call } : Context).perform
          (writeOutSlots bytes pointerSlot lengthSlot) store =
        some (.ok ⟨⟨0, 0⟩, .guestOwned⟩,
          { store with memory := store.memory.deliver ⟨0, 0⟩ [] pointerSlot lengthSlot })) ∧
      (∀ fault left,
        context.perform (writeOutSlots bytes pointerSlot lengthSlot) store =
            some (.error fault, left) →
          ∃ outcome, context.invoke context.linked.conventions.allocExport
            [.i32 (UInt32.ofNat bytes.length)] store = some (outcome, left)) ∧
      (∀ buffer left,
        context.perform (writeOutSlots bytes pointerSlot lengthSlot) store =
            some (.ok buffer, left) →
          buffer.owner = .guestOwned ∧ buffer.length.toNat = bytes.length ∧
          ∃ allocated memory, left = { allocated with memory } ∧
            memory.size = allocated.memory.size ∧
            (∀ address, memory.byte address =
              allocated.memory.delivered buffer.span bytes pointerSlot lengthSlot address) ∧
            (bytes = [] → buffer.pointer = 0 ∧ allocated = store) ∧
            (bytes ≠ [] → context.invoke context.linked.conventions.allocExport
              [.i32 buffer.length] store = some (.ok [.i32 buffer.pointer], allocated)) ∧
            (Apart pointerSlot.toNat 4 lengthSlot.toNat 4 →
              Apart buffer.pointer.toNat bytes.length pointerSlot.toNat 4 →
              Apart buffer.pointer.toNat bytes.length lengthSlot.toNat 4 →
              memory.readWord pointerSlot = .ok buffer.pointer ∧
              memory.readWord lengthSlot = .ok buffer.length ∧
              memory.read buffer.pointer buffer.length = .ok bytes))) := by
  refine ⟨perform_writeOutSlots_refused bytes, fun sees pointerInside lengthInside => ?_⟩
  by_cases empty : bytes = []
  · -- The two words are all that is written.
    subst empty
    have shown (call) : ({ context with call } : Context).SeesMemory := sees
    have delivers (call) : ({ context with call } : Context).perform
        (writeOutSlots [] pointerSlot lengthSlot) store =
          some (.ok ⟨⟨0, 0⟩, .guestOwned⟩,
            { store with memory := store.memory.deliver ⟨0, 0⟩ [] pointerSlot lengthSlot }) :=
      perform_writeOutSlots_nil (shown call) pointerInside lengthInside
    refine ⟨fun _ => delivers, fun fault left performed => ?_, fun buffer left performed => ?_⟩
    · rw [delivers context.call] at performed
      cases performed
    · rw [delivers context.call] at performed
      cases performed
      refine ⟨rfl, rfl, store, _, rfl, by simp, Region.byte_deliver _ _ _ _ _, fun _ => ⟨rfl, rfl⟩,
        fun nonempty => absurd rfl nonempty, fun slots pointer length => ?_⟩
      exact Region.read_deliver pointerInside lengthInside (by simp) rfl slots pointer length
  · -- What the allocation decides is all that can fail.
    have positive := Region.length_ne_zero short empty
    rw [perform_writeOutSlots_cons sees grows short empty pointerInside lengthInside]
    refine ⟨fun none => absurd none empty, fun fault left performed => ?_,
      fun buffer left performed => ?_⟩
    · split at performed
      · cases performed
      · cases performed
      · rename_i failed
        cases performed
        exact allocate_left sees positive failed
    · split at performed
      · cases performed
      · rename_i given allocated answered
        cases performed
        obtain ⟨_, counted, inside, invoked⟩ := allocate_bytes sees short answered
        -- The slots were checked against a memory that has not shrunk since.
        have grown : store.memory.size ≤ allocated.memory.size := grows.keeps _ store _ _ answered
        refine ⟨rfl, counted, allocated, _, rfl, by simp, Region.byte_deliver _ _ _ _ _,
          fun none => absurd none empty, fun _ => invoked, fun slots pointer final => ?_⟩
        have spanInside : given.pointer.toNat + given.length.toNat ≤ allocated.memory.size := by
          omega
        exact Region.read_deliver (by omega) (by omega) spanInside counted slots pointer final
      · cases performed

/-- On a running guest, bytes are delivered through two slots that overlap each other and the
allocation: the length counts before the pointer, and the pointer before the bytes. -/
theorem writeOutSlots_all_or_nothing_overlapping :
    ∃ left, (Sample.context Sample.descend).perform (writeOutSlots [1, 2, 3] 17 19)
        (Sample.inst Sample.descend).store = some (.ok ⟨⟨16, 3⟩, .guestOwned⟩, left) ∧
      left.memory.bytesAt 16 7 = [1, 16, 0, 3, 0, 0, 0] := by
  have sees : (Sample.context Sample.descend).SeesMemory :=
    Linked.context_seesMemory (Sample.links _) _ _ _
  have grows : (Sample.context Sample.descend).NeverShrinks :=
    Linked.context_neverShrinks _ _ _ _ _
  have short : [(1 : UInt8), 2, 3].length < UInt32.size := by decide
  obtain ⟨_, delivers⟩ := writeOutSlots_all_or_nothing grows short 17 19
    (Sample.inst Sample.descend).store
  obtain ⟨_, _, succeeds⟩ := delivers sees (by decide) (by decide)
  refine ⟨_, rfl, ?_⟩
  obtain ⟨_, _, allocated, memory, same, _, bytes, _⟩ := succeeds ⟨⟨16, 3⟩, .guestOwned⟩ _ rfl
  rw [same, Region.bytesAt]
  -- The slots and the bytes cover all seven addresses.
  rw [List.map_congr_left fun address _ => bytes address]
  rfl

end Context

end GuestBoundary
