import GuestBoundary.Proofs.Arguments
import GuestBoundary.Proofs.OutSlots
import GuestBoundary.Proofs.Requests
import GuestBoundary.Proofs.Sample

/-! What a host function can do, by who called it: for guest code it works as on the instance itself, and
for the host it finds neither exports nor memory. -/

namespace GuestBoundary

variable {α : Type}

/-- What a host function can do at the boundary, by what that gives. -/
inductive HostOperation : Type → Type where
  | readBytes (span : Span) : HostOperation (List UInt8)
  | readString (span : Span) : HostOperation String
  | hasExport (name : String) : HostOperation Bool
  | invoke (name : String) (arguments : List Value) : HostOperation (List Value)
  | allocate (length : UInt32) : HostOperation Buffer
  | release (buffer : Buffer) : HostOperation Unit
  | copyIn (bytes : List UInt8) : HostOperation Buffer
  | writeOutSlots (bytes : List UInt8) (pointerSlot lengthSlot : UInt32) : HostOperation Buffer

namespace HostOperation

/-- The program of an operation. -/
def program : HostOperation α → Program α
  | readBytes span => Program.readBytes span
  | readString span => Program.readString span
  | hasExport name => Program.hasExport name
  | invoke name arguments => Program.invoke name arguments
  | allocate length => Program.allocate length
  | release buffer => Program.release buffer
  | copyIn bytes => Program.copyIn bytes
  | writeOutSlots bytes pointerSlot lengthSlot => Program.writeOutSlots bytes pointerSlot lengthSlot

/-- What an operation comes to where nothing of the instance can be seen. -/
def unseen (conventions : Conventions) : HostOperation α → Except Fault α
  | readBytes _ => .error (.invalidModule (.memoryMissing conventions.memoryExport))
  | readString _ => .error (.invalidModule (.memoryMissing conventions.memoryExport))
  | hasExport _ => .ok false
  | invoke name _ => .error (.exportNotFound name)
  | allocate length =>
    .error (.allocationFailed length
      (if length = 0 then .zeroLength else .missing conventions.allocExport))
  | release buffer => buffer.checkRelease
  | copyIn bytes =>
    .error (if bytes.length < UInt32.size
      then .invalidModule (.memoryMissing conventions.memoryExport)
      else .allocationFailed 0xFFFFFFFF .tooLarge)
  | writeOutSlots _ _ _ => .error (.invalidModule (.memoryMissing conventions.memoryExport))

/-- No operation is about the host function that performs it. -/
theorem asks (operation : HostOperation α) : operation.program.Asks Request.OfInstance := by
  cases operation with
  | readBytes span => exact Program.asks_readBytes span
  | readString span => exact Program.asks_readString span
  | hasExport name => exact Program.asks_hasExport trivial
  | invoke name arguments => exact Program.asks_invoke name arguments
  | allocate length => exact Program.asks_allocate length
  | release buffer => exact Program.asks_release buffer
  | copyIn bytes => exact Program.asks_copyIn bytes
  | writeOutSlots bytes pointerSlot lengthSlot =>
    exact Program.asks_writeOutSlots bytes pointerSlot lengthSlot

end HostOperation

namespace Context

variable {context : Context}

/-- A program that only asks about the instance runs alike under every name. -/
theorem perform_self {program : Program α} (asks : program.Asks Request.OfInstance) (self : String)
    (store : Store) :
    ({ context with self } : Context).perform program store = context.perform program store := by
  -- Each of its requests is answered alike, and what follows has no other requests.
  induction program generalizing store with
  | done value => rfl
  | fail fault => rfl
  | ask request resume ih =>
    have alike : ({ context with self } : Context).answer request store =
        context.answer request store := by
      cases request with
      | self => exact asks.1.elim
      | log message => exact asks.1.elim
      | _ => rfl
    simp only [perform, alike]
    cases context.answer request store with
    | none => rfl
    | some answered => exact ih answered.1 (asks.2 answered.1) answered.2

section Unseen

variable (unseen : context.visible = false)
include unseen

theorem function?_unseen (name : String) : context.function? name = none := by
  rw [function?, unseen]
  rfl

theorem blind_unseen : ¬ context.SeesMemory := by
  simp [SeesMemory, showsMemory, unseen]

theorem invoke_unseen (name : String) (arguments : List Value) (store : Store) :
    context.invoke name arguments store = some (.error (.exportNotFound name), store) := by
  simp only [invoke, prepare, function?_unseen unseen]

/-- Where nothing of the instance can be seen, no operation changes anything. -/
theorem perform_unseen (operation : HostOperation α) (store : Store) :
    context.perform operation.program store =
      some (operation.unseen context.linked.conventions, store) := by
  have blind := blind_unseen unseen
  cases operation with
  | readBytes span =>
    simp only [HostOperation.program, Program.readBytes, perform_bind, perform_resolve_blind blind,
      HostOperation.unseen]
  | readString span =>
    simp only [HostOperation.program, Program.readString, Program.readBytes, perform_bind,
      perform_resolve_blind blind, HostOperation.unseen]
  | hasExport name =>
    simp only [HostOperation.program, perform_hasExport, function?_unseen unseen, HostOperation.unseen,
      Option.isSome_none]
  | invoke name arguments =>
    simp only [HostOperation.program, perform_invoke, invoke_unseen unseen, HostOperation.unseen]
  | allocate length =>
    simp only [HostOperation.program, Program.allocate, HostOperation.unseen]
    split
    · rfl
    · simp only [perform_bind, perform_conventions, perform_attempt, perform_invoke,
        invoke_unseen unseen, perform_fail, Program.allocatorFault]
  | release buffer =>
    obtain ⟨span, owner⟩ := buffer
    cases owner with
    | hostOwned =>
      -- There is no deallocator to be seen, so a release succeeds and does nothing.
      rw [HostOperation.program, perform_release rfl]
      split
      · rfl
      · rw [function?_unseen unseen]
        rfl
    | _ => rfl
  | copyIn bytes =>
    simp only [HostOperation.program, Program.copyIn, HostOperation.unseen]
    split
    · simp only [perform_bind, perform_resolve_blind blind]
    · rfl
  | writeOutSlots bytes pointerSlot lengthSlot =>
    simp only [HostOperation.program, Program.writeOutSlots, perform_bind, perform_resolve_blind blind,
      HostOperation.unseen]

end Unseen

/-- The fault of the module with which a function ended that the context entered on a store. -/
def RaisesBelow (context : Context) (why : Invalid) (store left : Store) : Prop :=
  ∃ id arguments,
    (context.call id arguments).surface store = some (.error (.invalidModule why), left)

variable {store left : Store} {why : Invalid}

/-- A call is turned down for itself, never for the module. -/
theorem invoke_invalidModule {name : String} {arguments : List Value}
    (failed : context.invoke name arguments store = some (.error (.invalidModule why), left)) :
    context.RaisesBelow why store left := by
  -- The checks come first, and their faults are about the name, the type and the arguments.
  unfold invoke at failed
  split at failed
  · rename_i refused prepared
    cases failed
    exact (prepare_rejects prepared).elim
  · exact ⟨_, _, failed⟩

theorem allocate_invalidModule (sees : context.SeesMemory) {length : UInt32}
    (failed : context.perform (Program.allocate length) store =
      some (.error (.invalidModule why), left)) : context.RaisesBelow why store left := by
  by_cases zero : length = 0
  · rw [Program.allocate, if_pos zero] at failed
    cases failed
  · rw [perform_allocate sees zero] at failed
    split at failed
    · cases failed
    · -- What the allocator answers can only be refused as an allocation.
      rename_i values _ _
      obtain ⟨refused, _⟩ := Prod.mk.inj (Option.some.inj failed)
      unfold allocation at refused
      split at refused
      · split at refused
        · cases refused
        · split at refused <;> cases refused
      · cases refused
    · rename_i fault _ invoked
      obtain ⟨refused, rfl⟩ := Prod.mk.inj (Option.some.inj failed)
      -- Of the allocator's own faults, one of the module is passed on.
      cases fault with
      | invalidModule own =>
        cases refused
        exact invoke_invalidModule invoked
      | _ => cases refused

theorem copyIn_invalidModule (sees : context.SeesMemory) {bytes : List UInt8}
    (failed : context.perform (Program.copyIn bytes) store =
      some (.error (.invalidModule why), left)) : context.RaisesBelow why store left := by
  -- Copying in fails as its allocation does, unless there are too many bytes for one.
  by_cases short : bytes.length < UInt32.size
  · rw [perform_copyIn sees short] at failed
    split at failed
    · cases failed
    · cases failed
    · rename_i allocated
      cases failed
      exact allocate_invalidModule sees allocated
  · rw [Program.copyIn, if_neg short] at failed
    cases failed

theorem release_invalidModule {buffer : Buffer}
    (failed : context.perform (Program.release buffer) store =
      some (.error (.invalidModule why), left)) : context.RaisesBelow why store left := by
  obtain ⟨span, owner⟩ := buffer
  cases owner with
  | hostOwned =>
    rw [perform_release rfl] at failed
    -- Whatever comes before the deallocator runs is its absence or a fault of a call.
    split at failed
    · cases failed
    · split at failed
      · cases failed
      · split at failed
        · cases failed
        · split at failed
          · rename_i refused
            unfold Program.deallocatorArguments at refused
            split at refused
            · cases refused
            · cases refused
            · cases refused
              cases failed
          · split at failed
            · cases failed
            · cases failed
            · rename_i invoked
              cases failed
              exact invoke_invalidModule invoked
  | _ => cases failed

theorem readBytes_invalidModule (sees : context.SeesMemory) {span : Span}
    (failed : context.perform (Program.readBytes span) store =
      some (.error (.invalidModule why), left)) : False := by
  -- A read can only be out of bounds.
  simp only [Program.readBytes, perform_bind, perform_resolve sees, perform_read sees] at failed
  by_cases inside : span.pointer.toNat + span.length.toNat ≤ store.memory.size
  · rw [Region.read_inside inside] at failed
    cases failed
  · rw [Region.read_outside (by omega)] at failed
    cases failed

theorem writeOutSlots_invalidModule (sees : context.SeesMemory) (grows : context.NeverShrinks)
    {bytes : List UInt8} {pointerSlot lengthSlot : UInt32}
    (failed : context.perform (Program.writeOutSlots bytes pointerSlot lengthSlot) store =
      some (.error (.invalidModule why), left)) : context.RaisesBelow why store left := by
  by_cases pointerInside : pointerSlot.toNat + (4 : UInt32).toNat ≤ store.memory.size
  · by_cases lengthInside : lengthSlot.toNat + (4 : UInt32).toNat ≤ store.memory.size
    · -- With both slots in bounds, only the payload can fail.
      by_cases empty : bytes = []
      · rw [empty, perform_writeOutSlots_nil sees pointerInside lengthInside] at failed
        cases failed
      · by_cases short : bytes.length < UInt32.size
        · rw [perform_writeOutSlots_cons sees grows short empty pointerInside lengthInside] at failed
          split at failed
          · cases failed
          · cases failed
          · rename_i allocated
            cases failed
            exact allocate_invalidModule sees allocated
        · simp only [Program.writeOutSlots, perform_bind, perform_resolve sees, perform_size sees,
            perform_settle, Region.checkRange_ok pointerInside, Region.checkRange_ok lengthInside,
            if_neg empty, Program.copyIn, if_neg short, perform_fail] at failed
          cases failed
    · simp only [Program.writeOutSlots, perform_bind, perform_resolve sees, perform_size sees,
        perform_settle, Region.checkRange_ok pointerInside,
        Region.checkRange_error (Nat.lt_of_not_le lengthInside)] at failed
      cases failed
  · simp only [Program.writeOutSlots, perform_bind, perform_resolve sees, perform_size sees,
      perform_settle, Region.checkRange_error (Nat.lt_of_not_le pointerInside)] at failed
    cases failed

/-- Where memory is seen, an operation fails for the module only if a function did so that it called on
the very store it was given. -/
theorem operation_invalidModule (sees : context.SeesMemory) (grows : context.NeverShrinks)
    (operation : HostOperation α)
    (failed : context.perform operation.program store =
      some (.error (.invalidModule why), left)) : context.RaisesBelow why store left := by
  cases operation with
  | readBytes span => exact (readBytes_invalidModule sees failed).elim
  | readString span =>
    -- Decoding what has been read cannot fail.
    simp only [HostOperation.program, Program.readString, perform_bind] at failed
    split at failed
    · cases failed
    · cases failed
    · rename_i read
      cases failed
      exact (readBytes_invalidModule sees read).elim
  | hasExport name => cases failed
  | invoke name arguments =>
    rw [HostOperation.program, perform_invoke] at failed
    exact invoke_invalidModule failed
  | allocate length => exact allocate_invalidModule sees failed
  | release buffer => exact release_invalidModule failed
  | copyIn bytes => exact copyIn_invalidModule sees failed
  | writeOutSlots bytes pointerSlot lengthSlot =>
    exact writeOutSlots_invalidModule sees grows failed

end Context

namespace Linked

/-- Where a host function runs that a caller has called. -/
def hostContext (linked : Linked) (patience depth : Nat) (caller : Caller) (host : HostFunction) :
    Context :=
  linked.context patience depth (caller == .guest) host.name

/--
A host function works on the instance that called it, and on nothing if the host called it.

Whoever calls a host function, its program runs in the context of that caller. If that is code of the
guest, the memory that was checked at instantiation is found, and every operation gives what it would give
on the instance itself with as many calls active, and leaves the same store. It fails for the module only
where a function does that it calls. If the caller is the host, as where an import is exported again and
called by its name, then nothing of the instance is found: no operation changes anything, and what it
comes to depends on the conventions alone.
-/
theorem operations_by_caller {settings : Settings} {registry : Registry} {guest : Wasm.Module}
    {linked : Linked} (links : Linked.link settings registry guest = .ok linked) {id : String}
    {host : HostFunction} (bound : linked.hosts.lookup id = some host) (patience depth : Nat) :
    (∀ caller arguments, linked.call patience (depth + 1) caller id arguments =
      Run.carry ((linked.hostContext patience depth caller host).perform (host.run arguments))) ∧
    ∀ store : Store,
      (linked.hostContext patience depth .guest host).perform View.resolve store =
        some (.ok ⟨linked.conventions.memoryExport⟩, store) ∧
      ∀ {α : Type} (operation : HostOperation α),
        (linked.hostContext patience depth .guest host).perform operation.program store =
          (Instance.context ⟨depth, patience⟩ linked).perform operation.program store ∧
        (∀ why left, (linked.hostContext patience depth .guest host).perform operation.program store =
            some (.error (.invalidModule why), left) →
          ∃ called passed, (linked.call patience depth .host called passed).surface store =
            some (.error (.invalidModule why), left)) ∧
        (linked.hostContext patience depth .host host).perform operation.program store =
          some (operation.unseen linked.conventions, store) := by
  have sees : (linked.hostContext patience depth .guest host).SeesMemory :=
    context_seesMemory links patience depth host.name
  have grows : (linked.hostContext patience depth .guest host).NeverShrinks :=
    linked.context_neverShrinks patience depth true host.name
  refine ⟨fun caller arguments => call_host bound caller arguments, fun store =>
    ⟨Context.perform_resolve sees store, fun operation => ⟨?_, fun why left failed => ?_, ?_⟩⟩⟩
  · -- The two contexts differ in the name of the host function, which no operation asks for.
    exact (Context.perform_self operation.asks "host" store).symm
  · exact Context.operation_invalidModule sees grows operation failed
  · exact Context.perform_unseen rfl operation store

end Linked

namespace Sample

/-- A host function that reads the first word of memory. -/
def peek (_ : List Value) : Program (List Value) := do
  let _ ← Program.readBytes ⟨0, 4⟩
  return []

/-- The guest, which also exports what it imports. -/
def mirror : Wasm.Module :=
  { guest with exports := guest.exports ++ [⟨"visit", .function "visit"⟩] }

/-- The guest that exports its import, with that import bound. -/
def mirrored : Linked := { linked peek with guest := mirror }

/-- The guest that exports its import, freshly instantiated. -/
def mirrorInst : Instance := ⟨mirrored, Instance.initialStore .default mirrored⟩

end Sample

/-- Reading a word works for a host function that the guest calls, and not for the same one called by
its name from the host. -/
theorem Linked.operations_by_caller_mirror :
    Linked.link .default (Sample.registry Sample.peek) Sample.mirror = .ok Sample.mirrored ∧
      Sample.mirrored.hosts.lookup "visit" = some (Sample.visit Sample.peek) ∧
      (Sample.mirrored.hostContext 16 15 .guest (Sample.visit Sample.peek)).perform
          (HostOperation.readBytes ⟨0, 4⟩).program Sample.mirrorInst.store =
        some (.ok [0, 0, 0, 0], Sample.mirrorInst.store) ∧
      (Sample.mirrored.hostContext 16 15 .host (Sample.visit Sample.peek)).perform
          (HostOperation.readBytes ⟨0, 4⟩).program Sample.mirrorInst.store =
        some (.error (.invalidModule (.memoryMissing "memory")), Sample.mirrorInst.store) := by
  have links : Linked.link .default (Sample.registry Sample.peek) Sample.mirror =
      .ok Sample.mirrored := rfl
  have bound : Sample.mirrored.hosts.lookup "visit" = some (Sample.visit Sample.peek) := rfl
  obtain ⟨same, -, blind⟩ := ((Linked.operations_by_caller links bound 16 15).2
    Sample.mirrorInst.store).2 (.readBytes ⟨0, 4⟩)
  refine ⟨links, bound, ?_, blind⟩
  -- What the instance itself reads is what the host function reads.
  rw [same]
  rfl

/-- A host function that the host calls by its exported name fails for the module, in a state in which
guest code can call it and the instance itself reads the very same word. -/
theorem Instance.reexported_import_blind :
    Linked.link .default (Sample.registry Sample.peek) Sample.mirror = .ok Sample.mirrored ∧
      Sample.mirrorInst.perform Sample.engine (Program.readBytes ⟨0, 4⟩) =
        some (.ok [0, 0, 0, 0], Sample.mirrorInst) ∧
      (∃ left, Sample.mirrorInst.perform Sample.engine (Program.invoke "relay" [.i32 0]) =
        some (.ok [], left)) ∧
      Sample.mirrorInst.perform Sample.engine (Program.invoke "visit" [.i32 0]) =
        some (.error (.invalidModule (.memoryMissing "memory")), Sample.mirrorInst) :=
  ⟨rfl, rfl, ⟨_, rfl⟩, rfl⟩

end GuestBoundary
