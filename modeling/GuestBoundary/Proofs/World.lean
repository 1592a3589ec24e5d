import Mathlib.Logic.Function.Basic
import GuestBoundary.Proofs.Lifecycle

/-! A host with many guests of one sandbox. The guests share the engine and the host functions, their
stores lie on one heap, and an operation works on all that a guest has a handle to. -/

namespace GuestBoundary

/-- Stores by their addresses. -/
structure Heap where
  cells : List (Option Store)

namespace Heap

variable {heap : Heap} {store : Store} {address other : Nat}

/-- The store at an address, if there is one. -/
def get? (heap : Heap) (address : Nat) : Option Store := heap.cells[address]?.join

/-- Replace the store at an address. -/
def write (heap : Heap) (address : Nat) (store : Store) : Heap :=
  ⟨heap.cells.set address (some store)⟩

/-- Give up the store at an address, which may then be used for another one. -/
def free (heap : Heap) (address : Nat) : Heap := ⟨heap.cells.set address none⟩

/-- Give up a store, if there is one to give up. -/
def release (heap : Heap) : Option Nat → Heap
  | none => heap
  | some address => heap.free address

/-- Put a store into the first cell that is not in use. -/
def settle (store : Store) : List (Option Store) → List (Option Store) × Nat
  | [] => ([some store], 0)
  | none :: rest => (some store :: rest, 0)
  | some held :: rest => (some held :: (settle store rest).1, (settle store rest).2 + 1)

/-- Find an address for a new store. -/
def claim (heap : Heap) (store : Store) : Heap × Nat :=
  (⟨(settle store heap.cells).1⟩, (settle store heap.cells).2)

/-- A store that is replaced is read back. -/
theorem get?_write (lives : (heap.get? address).isSome) :
    (heap.write address store).get? address = some store := by
  -- An address with a store lies inside the heap, which does not grow here.
  have inside : address < heap.cells.length := by
    by_contra beyond
    simp [get?, List.getElem?_eq_none (Nat.le_of_not_lt beyond)] at lives
  simp [get?, write, inside]

/-- Replacing a store leaves every other. -/
theorem get?_write_of_ne (apart : address ≠ other) :
    (heap.write address store).get? other = heap.get? other := by
  simp [get?, write, List.getElem?_set_ne apart]

/-- Giving up a store leaves every other. -/
theorem get?_release_of_ne {former? : Option Nat} (apart : former? ≠ some other) :
    (heap.release former?).get? other = heap.get? other := by
  cases former? with
  | none => rfl
  | some address =>
    have apart : address ≠ other := fun same => apart (congrArg some same)
    simp [get?, release, free, List.getElem?_set_ne apart]

/-- A new store is read back. -/
theorem get?_claim (heap : Heap) (store : Store) :
    (heap.claim store).1.get? (heap.claim store).2 = some store := by
  obtain ⟨cells⟩ := heap
  -- By induction on the cells, up to the one that is not in use.
  induction cells with
  | nil => rfl
  | cons cell rest ih =>
    cases cell with
    | none => rfl
    | some held => simpa [claim, settle, get?] using ih

/-- The address of a new store was not in use. -/
theorem get?_claimed (heap : Heap) (store : Store) : heap.get? (heap.claim store).2 = none := by
  obtain ⟨cells⟩ := heap
  -- Cells in use are passed over, so the search ends at an empty one or past the end.
  induction cells with
  | nil => rfl
  | cons cell rest ih =>
    cases cell with
    | none => rfl
    | some held => simpa [claim, settle, get?] using ih

/-- A new store leaves every other. -/
theorem get?_claim_of_ne (apart : (heap.claim store).2 ≠ address) :
    (heap.claim store).1.get? address = heap.get? address := by
  obtain ⟨cells⟩ := heap
  -- Only the cell where the search ends is changed: those that it passed over are kept one by one.
  induction cells generalizing address with
  | nil =>
    cases address with
    | zero => exact absurd rfl apart
    | succ address => rfl
  | cons cell rest ih =>
    cases address with
    | zero =>
      cases cell with
      | none => exact absurd rfl apart
      | some held => rfl
    | succ address =>
      cases cell with
      | none => rfl
      | some held =>
        have apart : (claim ⟨rest⟩ store).2 ≠ address := fun same => apart (congrArg (· + 1) same)
        simpa [claim, settle, get?] using ih apart

end Heap

/-- How far a guest has come, with the address of its store in place of the store. -/
inductive Handle where
  | unloaded
  | loaded (code : Wasm.Module)
  | instantiated (linked : Linked) (address : Nat)
  | closed

namespace Handle

/-- The address of the store, if there is an instance. -/
def address? : Handle → Option Nat
  | .instantiated _ address => some address
  | _ => none

/-- What a handle shows on a heap; nothing if there is no store at its address. -/
def phase? (heap : Heap) : Handle → Option Phase
  | .unloaded => some .unloaded
  | .loaded code => some (.loaded code)
  | .instantiated linked address => (heap.get? address).map fun store => .instantiated ⟨linked, store⟩
  | .closed => some .closed

/-- What a handle shows depends on the store at its address alone. -/
theorem phase?_congr {heap other : Heap} {handle : Handle}
    (same : ∀ address, handle.address? = some address → other.get? address = heap.get? address) :
    handle.phase? other = handle.phase? heap := by
  cases handle with
  | instantiated linked address => simp only [phase?, same address rfl]
  | _ => rfl

/-- A handle that shows something has a store at its address. -/
theorem lives_of_phase? {heap : Heap} {handle : Handle} {phase : Phase} {address : Nat}
    (shows : handle.phase? heap = some phase) (holds : handle.address? = some address) :
    (heap.get? address).isSome := by
  cases handle with
  | instantiated linked own =>
    cases holds
    obtain ⟨store, found, _⟩ := Option.map_eq_some_iff.mp shows
    exact Option.isSome_of_eq_some found
  | _ => cases holds

end Handle

namespace Heap

variable {heap : Heap} {former? : Option Nat} {phase : Phase} {address : Nat}

/-- Put what a guest has come to on the heap. An instance stays where it was, and a new one gets an
address; a store that is not needed any more is given up. -/
def keep (heap : Heap) (former? : Option Nat) : Phase → Heap × Handle
  | .instantiated inst =>
    match former? with
    | some address => (heap.write address inst.store, .instantiated inst.linked address)
    | none => ((heap.claim inst.store).1, .instantiated inst.linked (heap.claim inst.store).2)
  | .unloaded => (heap.release former?, .unloaded)
  | .loaded code => (heap.release former?, .loaded code)
  | .closed => (heap.release former?, .closed)

/-- What is put on the heap is what its handle shows. -/
theorem keep_shows (lives : ∀ address, former? = some address → (heap.get? address).isSome) :
    (heap.keep former? phase).2.phase? (heap.keep former? phase).1 = some phase := by
  -- Only an instance has a store to be found again, at its own address or at a new one.
  cases phase with
  | instantiated inst =>
    cases former? with
    | some address => simp [keep, Handle.phase?, get?_write (lives address rfl)]
    | none => simp [keep, Handle.phase?, get?_claim]
  | _ => rfl

/-- The handle has the address that there was, or one that was not in use. -/
theorem keep_address (holds : (heap.keep former? phase).2.address? = some address) :
    former? = some address ∨ heap.get? address = none := by
  cases phase with
  | instantiated inst =>
    cases former? with
    | some former => exact .inl holds
    | none =>
      cases holds
      exact .inr (get?_claimed heap inst.store)
  | _ => cases holds

/-- Every other store stays as it is. -/
theorem keep_elsewhere (apart : former? ≠ some address) (lives : (heap.get? address).isSome) :
    (heap.keep former? phase).1.get? address = heap.get? address := by
  cases phase with
  | instantiated inst =>
    cases former? with
    | some former => exact get?_write_of_ne fun same => apart (congrArg some same)
    | none =>
      -- A new store gets a cell that was not in use, unlike the one at the address.
      refine get?_claim_of_ne fun same => ?_
      rw [← same, get?_claimed] at lives
      cases lives
  | _ => exact get?_release_of_ne apart

end Heap

/-- What a host keeps of a guest: its own copy of the settings, and its handle. -/
structure Kept where
  settings : Settings
  handle : Handle

/-- A sandbox, whose engine and host functions all guests share, with the guests that a host keeps. -/
structure World where
  sandbox : Sandbox
  heap : Heap
  kept : Nat → Option Kept

namespace World

/-- A sandbox without any guests yet. -/
def new (sandbox : Sandbox) : World := ⟨sandbox, ⟨[]⟩, fun _ => none⟩

/-- The address that belongs to a key. -/
def address? (world : World) (key : Nat) : Option Nat := (world.kept key).bind (·.handle.address?)

/-- The guest under a key, with everything that it has a handle to. -/
def guest? (world : World) (key : Nat) : Option Guest := do
  let kept ← world.kept key
  let phase ← kept.handle.phase? world.heap
  return ⟨{ world.sandbox with settings := kept.settings }, phase⟩

/-- Put back what was done with the guest under a key: all that it could reach is as it was left. -/
def put (world : World) (key : Nat) : Option Guest → World
  | some guest =>
    let (heap, handle) := world.heap.keep (world.address? key) guest.phase
    -- The engine and the host functions are not copied for a guest, unlike the settings.
    { sandbox := { guest.sandbox with settings := world.sandbox.settings }
      heap
      kept := Function.update world.kept key (some ⟨guest.sandbox.settings, handle⟩) }
  | none =>
    { world with
      heap := world.heap.release (world.address? key)
      kept := Function.update world.kept key none }

/-- What holds of the guests that a host keeps. -/
structure Sound (world : World) : Prop where
  /-- No handle is left without its store. -/
  lives {key address : Nat} : world.address? key = some address → (world.heap.get? address).isSome
  /-- A store belongs to one guest. -/
  own {key other address : Nat} :
    world.address? key = some address → world.address? other = some address → key = other
  /-- The copies of the settings are all alike. -/
  copies {key : Nat} {kept : Kept} :
    world.kept key = some kept → kept.settings = world.sandbox.settings

variable {world : World} {key other : Nat} {guest : Guest} {slot : Option Guest}

/-- The guests of a new sandbox are none. -/
theorem sound_new (sandbox : Sandbox) : (new sandbox).Sound where
  lives holds := by cases holds
  own holds := by cases holds
  copies found := by cases found

/-- A guest that is kept is one of the sandbox. -/
theorem Sound.sandbox_eq (sound : world.Sound) (found : world.guest? key = some guest) :
    guest.sandbox = world.sandbox := by
  obtain ⟨kept, kept_eq, found⟩ := Option.bind_eq_some_iff.mp found
  obtain ⟨phase, _, found⟩ := Option.bind_eq_some_iff.mp found
  cases found
  rw [sound.copies kept_eq]

/-- What is put on the heap for a key is what its handle shows, wherever that is. -/
theorem Sound.keep_shows (sound : world.Sound) (key : Nat) (phase : Phase) :
    (world.heap.keep (world.address? key) phase).2.phase?
      (world.heap.keep (world.address? key) phase).1 = some phase :=
  Heap.keep_shows fun _ holds => sound.lives holds

/-- What is put back under a key is found there. -/
theorem Sound.guest?_put (sound : world.Sound) : (world.put key slot).guest? key = slot := by
  cases slot with
  | none => simp [guest?, put]
  | some guest =>
    -- The engine and the host functions are found as the guest has left them, and so is its copy of the
    -- settings.
    have shows := sound.keep_shows key guest.phase
    simp [guest?, put, shows]

/-- The address under a key, once something has been put there, is the one that there was, or one that
was not in use. -/
theorem address?_put {address : Nat} (holds : (world.put key slot).address? key = some address) :
    world.address? key = some address ∨ world.heap.get? address = none := by
  -- A slot without a guest has no address at all.
  cases slot with
  | none => simp [address?, put] at holds
  | some guest =>
    have kept : (world.heap.keep (world.address? key) guest.phase).2.address? = some address := by
      simpa [address?, put] using holds
    exact Heap.keep_address kept

/-- The address under any other key stays the same. -/
theorem address?_put_of_ne (apart : key ≠ other) :
    (world.put key slot).address? other = world.address? other := by
  cases slot <;> simp [address?, put, Function.update_of_ne apart.symm]

/-- The store of another guest stays as it is. -/
theorem Sound.get?_put_of_ne (sound : world.Sound) (apart : key ≠ other) {address : Nat}
    (holds : world.address? other = some address) :
    (world.put key slot).heap.get? address = world.heap.get? address := by
  -- The address does not belong to the key, because it belongs to the other one.
  have foreign : world.address? key ≠ some address := fun same => apart (sound.own same holds)
  cases slot with
  | none => exact Heap.get?_release_of_ne foreign
  | some guest => exact Heap.keep_elsewhere foreign (sound.lives holds)

/-- The guest under another key keeps its settings, its handle and its store. What all guests share it has as
the guest that was put back has left it. -/
theorem Sound.guest?_put_of_ne (sound : world.Sound) (apart : key ≠ other) :
    (world.put key slot).guest? other = (world.guest? other).map fun guest =>
      ⟨{ (world.put key slot).sandbox with settings := guest.sandbox.settings }, guest.phase⟩ := by
  have kept : (world.put key slot).kept other = world.kept other := by
    cases slot <;> simp [put, Function.update_of_ne apart.symm]
  unfold guest?
  rw [kept]
  cases found : world.kept other with
  | none => rfl
  | some held =>
    -- What its handle shows is the store at its own address.
    have phase : held.handle.phase? (world.put key slot).heap = held.handle.phase? world.heap := by
      refine Handle.phase?_congr fun address holds => ?_
      have own : world.address? other = some address := by simp [address?, found, holds]
      exact sound.get?_put_of_ne apart own
    cases shows : held.handle.phase? world.heap <;> simp [phase, shows]

/-- The guest under another key stays as it is if nothing that all guests share has been touched. -/
theorem Sound.guest?_put_untouched (sound : world.Sound) (apart : key ≠ other)
    (shared : (world.put key slot).sandbox = world.sandbox) :
    (world.put key slot).guest? other = world.guest? other := by
  have left : (world.put key slot).guest? other = _ := sound.guest?_put_of_ne apart
  rw [left, shared]
  cases found : world.guest? other with
  | none => rfl
  | some guest =>
    have same : guest.sandbox = world.sandbox := sound.sandbox_eq found
    rw [Option.map_some, ← same]

/-- A guest of the sandbox that is put back has not touched what all guests share. -/
theorem put_sandbox (own : ∀ guest, slot = some guest → guest.sandbox = world.sandbox) :
    (world.put key slot).sandbox = world.sandbox := by
  cases slot with
  | none => rfl
  | some guest => simp [put, own guest rfl]

/-- Putting back a guest of the sandbox keeps every store with one guest. -/
theorem Sound.put (sound : world.Sound)
    (own : ∀ guest, slot = some guest → guest.sandbox = world.sandbox) :
    (world.put key slot).Sound where
  lives {other address} holds := by
    by_cases same : key = other
    · subst same
      cases slot with
      | none => simp [address?, World.put] at holds
      | some guest =>
        -- The handle shows an instance, which it could not do without its store.
        have kept : (world.heap.keep (world.address? key) guest.phase).2.address? = some address := by
          simpa [address?, World.put] using holds
        exact Handle.lives_of_phase? (sound.keep_shows key guest.phase) kept
    · rw [address?_put_of_ne same] at holds
      rw [sound.get?_put_of_ne same holds]
      exact sound.lives holds
  own {first second address} one another := by
    -- An address under the key is one that belonged to it, or to nobody.
    have foreign {other : Nat} (apart : key ≠ other)
        (here : (world.put key slot).address? key = some address)
        (there : (world.put key slot).address? other = some address) : False := by
      rw [address?_put_of_ne apart] at there
      rcases address?_put here with former | vacant
      · exact apart (sound.own former there)
      · simpa [vacant] using sound.lives there
    by_cases left : key = first
    · subst left
      by_cases right : key = second
      · exact right
      · exact (foreign right one another).elim
    · by_cases right : key = second
      · subst right
        exact (foreign left another one).elim
      · rw [address?_put_of_ne left] at one
        rw [address?_put_of_ne right] at another
        exact sound.own one another
  copies {other kept} found := by
    rw [put_sandbox own]
    by_cases same : key = other
    · subst same
      cases slot with
      | none => simp [World.put] at found
      | some guest =>
        have shared := own guest rfl
        simp only [World.put, Function.update_self, Option.some.injEq] at found
        rw [← found, shared]
    · have before : world.kept other = some kept := by
        cases slot <;> simpa [World.put, Function.update_of_ne (Ne.symm same)] using found
      exact sound.copies before

end World

end GuestBoundary
