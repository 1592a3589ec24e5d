import GuestBoundary.Proofs.Lifecycle
import GuestBoundary.Proofs.Memory

/-! Instantiation: the checks that come before anything runs, and what can fail after them. -/

namespace GuestBoundary

/-- Two registries have functions of the same signatures under the same names. -/
def Registry.SameSignatures (first second : Registry) : Prop :=
  ∀ space name, (first.get? space name).map (·.signature) =
    (second.get? space name).map (·.signature)

/-- The check of an import asks for the signature under its names, and for nothing else. -/
theorem Registry.SameSignatures.resolveImport {first second : Registry}
    (same : first.SameSignatures second) (item : Wasm.ImportShape) :
    first.resolveImport item = second.resolveImport item :=
  resolveImport_congr (same item.space item.name)

namespace Linked

/-- The checks only see the interface of a module and the signatures of a registry. -/
theorem check_congr {settings : Settings} {first second : Registry} {guest other : Wasm.Module}
    (same : first.SameSignatures second) (shown : guest.interface = other.interface) :
    check settings first guest = check settings second other := by
  -- The memory is looked for in the interface, and the imports are resolved one by one.
  have resolve : first.resolveImport = second.resolveImport := funext same.resolveImport
  simp only [check, shown, Registry.resolveImports, resolve]

/-- A module that fails a check is not linked. -/
theorem link_check_error {settings : Settings} {registry : Registry} {guest : Wasm.Module}
    {fault : Fault} (failed : check settings registry guest = .error fault) :
    link settings registry guest = .error fault := by
  rw [link, failed]
  rfl

/-- Without the memory that the conventions name, that is what the checks say. -/
theorem check_memory {settings : Settings} (registry : Registry) {guest : Wasm.Module}
    (missing : guest.exportsMemory settings.conventions.memoryExport = false) :
    check settings registry guest =
      .error (.invalidModule (.memoryRequired settings.conventions.memoryExport)) := by
  rw [check, Wasm.Interface.requireMemory, Wasm.Module.interface_exportsMemory, missing]
  rfl

/-- With the memory exported, the checks are those of the imports. -/
theorem check_imports {settings : Settings} (registry : Registry) {guest : Wasm.Module}
    (exported : guest.exportsMemory settings.conventions.memoryExport = true) :
    check settings registry guest = registry.resolveImports guest.interface.imports
      (if settings.wasi then [SystemInterface.space] else []) := by
  rw [check, Wasm.Interface.requireMemory, Wasm.Module.interface_exportsMemory, exported]
  rfl

/-- Each import is bound to the function registered under its namespace and name, which has the very
type that the import declares. -/
def Binds (registry : Registry) (imports : List Wasm.Import) (hosts : List (String × HostFunction)) :
    Prop :=
  List.Forall₂ (fun item entry =>
    registry.get? item.space item.name = some entry.2 ∧
      item.kind = .function entry.1 entry.2.signature.funcType) imports hosts

/-- Without the system interface, a module that passes the checks has all its imports bound, and only
its memory decides whether it is linked. -/
theorem link_of_check {settings : Settings} {registry : Registry} {guest : Wasm.Module}
    (off : settings.wasi = false)
    (checked : check settings registry guest = .ok ()) :
    ∃ hosts, Binds registry guest.imports hosts ∧
      link settings registry guest =
        match memoryPages settings guest with
        | .ok (minPages, maxPages) =>
          .ok { guest, hosts, conventions := settings.conventions, minPages, maxPages }
        | .error failure => .error failure.fault := by
  -- An import that passes its check is bound to what the check has found.
  have each : ∀ item ∈ guest.imports, ∃ entry, bindImport registry item = .ok entry :=
    fun item member => bindImport_iff_resolveImport.mpr
      ((check_ok_iff.mp checked).2 item member (by rw [off]; nofun))
  obtain ⟨hosts, bound⟩ := bindImports_total each
  refine ⟨hosts, (bindImports_ok_iff.mp bound).imp fun _ _ => bindImport_ok_iff.mp, ?_⟩
  rw [link, checked, offered_registry registry off]
  simp only [bind, Except.bind, bound]
  cases memoryPages settings guest <;> rfl

end Linked

/-- A module without defects that exports a memory and only imports functions has one of its own. -/
theorem Wasm.Module.memories_ne_nil {guest : Wasm.Module} {name : String}
    (sound : guest.defect? = none) (exported : guest.exportsMemory name = true)
    (functions : ∀ item ∈ guest.imports, ∃ id type, item.kind = .function id type) :
    guest.memories ≠ [] := by
  -- No import is a memory, so the exported one can only be among the module's own.
  obtain ⟨item, member, shown⟩ := List.any_eq_true.mp exported
  have has := (defect?_eq_none_iff.mp sound).items item member
  cases kind : item.kind with
  | memory index =>
    have own : guest.allMemories = guest.memories := by
      rw [allMemories, List.filterMap_eq_nil_iff.mpr, List.nil_append]
      intro item member
      obtain ⟨id, type, asked⟩ := functions item member
      rw [asked]
    rintro empty
    simp [kind, hasItem, own, empty] at has
  | _ => simp [kind, ExportKind.isMemory] at shown

/-- Bytes that guest code cannot write do not lie inside memory. -/
theorem Wasm.storeBytes_error {address : UInt32} {bytes : List UInt8} {store left : Store}
    {failure : Failure} (failed : storeBytes address bytes store = some (.error failure, left)) :
    failure = .trap .memoryOutOfBounds ∧
      (bytes.length < UInt32.size → store.memory.size < address.toNat + bytes.length) := by
  -- A write inside memory always succeeds, so a failed one was not inside.
  simp only [storeBytes, Run.bind_apply, Run.get_apply] at failed
  cases written : store.memory.write address bytes with
  | ok memory => simp [written] at failed
  | error fault =>
    simp only [written, Run.access_error, Run.trap_apply, Option.some.injEq, Prod.mk.injEq,
      Except.error.injEq] at failed
    refine ⟨failed.1.symm, fun short => ?_⟩
    by_contra inside
    rw [Region.write_inside short (by omega)] at written
    cases written

/-- Bytes that guest code writes leave the size of memory as it is. -/
theorem Wasm.storeBytes_ok {address : UInt32} {bytes : List UInt8} {store left : Store}
    (done : storeBytes address bytes store = some (.ok (), left)) :
    left.memory.size = store.memory.size := by
  simp only [storeBytes, Run.bind_apply, Run.get_apply] at done
  cases written : store.memory.write address bytes with
  | ok memory =>
    simp only [written, Run.access_ok, Run.pure_apply, Run.modify_apply, Option.some.injEq,
      Prod.mk.injEq] at done
    obtain ⟨-, -, rfl⟩ := Region.write_ok written
    rw [← done.2, Region.size_store]
  | error fault => simp [written] at done

/-- Segments are placed one after another, up to the first that cannot be. -/
theorem Wasm.segments_cons (segment : Segment) (rest : List Segment) (store : Store) :
    ((segment :: rest).forM fun segment => storeBytes segment.offset segment.bytes) store =
      match storeBytes segment.offset segment.bytes store with
      | none => none
      | some (.ok _, left) =>
        (rest.forM fun segment => storeBytes segment.offset segment.bytes) left
      | some (.error failure, left) => some (.error failure, left) := by
  refine (Run.bind_apply (storeBytes segment.offset segment.bytes) _ store).trans ?_
  rcases storeBytes segment.offset segment.bytes store with _ | ⟨_ | _, _⟩ <;> rfl

/-- Segments can only fail to be placed because one of them does not lie inside memory. -/
theorem Wasm.segments_error {segments : List Segment} {store left : Store} {failure : Failure}
    (failed : (segments.forM fun segment => storeBytes segment.offset segment.bytes) store =
      some (.error failure, left)) :
    failure = .trap .memoryOutOfBounds ∧ ∃ segment ∈ segments,
      (segment.bytes.length < UInt32.size →
        store.memory.size < segment.offset.toNat + segment.bytes.length) := by
  -- The segments before the failing one have left the size of memory as it is.
  induction segments generalizing store with
  | nil => cases failed
  | cons segment rest ih =>
    rw [segments_cons] at failed
    split at failed
    · cases failed
    · -- A later segment fails, in a memory of the same size.
      rename_i placed
      obtain ⟨cause, other, among, outside⟩ := ih failed
      rw [storeBytes_ok placed] at outside
      exact ⟨cause, other, List.mem_cons_of_mem _ among, outside⟩
    · rename_i trapped
      cases failed
      obtain ⟨cause, outside⟩ := storeBytes_error trapped
      exact ⟨cause, segment, List.mem_cons_self .., outside⟩

/-- Placing segments always has an end. -/
theorem Wasm.segments_ends (segments : List Segment) (store : Store) :
    (segments.forM fun segment => storeBytes segment.offset segment.bytes) store ≠ none := by
  -- Writing bytes has an end by itself, and there are only so many segments.
  intro endless
  induction segments generalizing store with
  | nil => cases endless
  | cons segment rest ih =>
    rw [segments_cons] at endless
    split at endless
    · rename_i unwritten
      simp only [storeBytes, Run.bind_apply, Run.get_apply] at unwritten
      cases written : store.memory.write segment.offset segment.bytes <;> simp [written] at unwritten
    · exact ih _ endless
    · cases endless

/-- What the engine itself can still come to once all imports of a module are bound. -/
inductive EngineFails (sandbox : Sandbox) (guest : Wasm.Module) : Fault → Prop
  /-- Memory would start beyond the limit of the store. -/
  | tooLarge {memory : Wasm.Limits} : guest.memories = [memory] →
      sandbox.settings.maxMemoryPages.toNat < memory.min →
      EngineFails sandbox guest (.engine "memory minimum size exceeds memory limits")
  /-- There would be more memories than the store allows. -/
  | tooMany : 2 ≤ guest.memories.length →
      EngineFails sandbox guest (.engine "memory count exceeds memory limits")
  /-- A segment does not lie inside memory. -/
  | segment {memory : Wasm.Limits} {segment : Wasm.Segment} : guest.memories = [memory] →
      segment ∈ guest.segments →
      (segment.bytes.length < UInt32.size →
        memory.min * pageSize < segment.offset.toNat + segment.bytes.length) →
      EngineFails sandbox guest (.guestTrapped .memoryOutOfBounds)
  /-- The start function traps, runs out of fuel, or calls a host function that fails. -/
  | start {linked : Linked} {id : String} {placed left : Store} {failure : Failure} :
      Linked.link sandbox.settings sandbox.registry guest = .ok linked → guest.start = some id →
      (guest.segments.forM fun segment => Wasm.storeBytes segment.offset segment.bytes)
        (Instance.initialStore sandbox.settings linked) = some (.ok (), placed) →
      linked.call sandbox.engine.patience sandbox.engine.depth .guest id [] placed =
        some (.error failure, left) →
      (∃ cause, failure = .trap cause) ∨ failure = .outOfFuel ∨ (∃ fault, failure = .raised fault) →
      EngineFails sandbox guest failure.fault

/-- Calls fail by a trap, by an empty meter, or as a host function does. -/
theorem Linked.call_failure {linked : Linked} {patience depth : Nat} {caller : Caller} {id : String}
    {arguments : List Value} {store left : Store} {failure : Failure}
    (failed : linked.call patience depth caller id arguments store = some (.error failure, left)) :
    (∃ cause, failure = .trap cause) ∨ failure = .outOfFuel ∨ ∃ fault, failure = .raised fault := by
  have own : Wasm.AllowsOwn fun failure => (∃ cause, failure = .trap cause) ∨
      failure = .outOfFuel ∨ ∃ fault, failure = .raised fault :=
    ⟨fun cause => .inl ⟨cause, rfl⟩, .inr (.inl rfl)⟩
  -- A host function cannot but raise what it fails with.
  exact call_failsAs own linked patience (fun _ _ _ _ _ _ fault _ _ => .inr (.inr ⟨fault, rfl⟩))
    depth caller id arguments store failure left failed

/-- What fails as a linked guest begins is one of its segments or its start function. -/
theorem Instance.begin_error {sandbox : Sandbox} {guest : Wasm.Module} {linked : Linked}
    {memory : Wasm.Limits} {failure : Failure} {left : Store}
    (links : Linked.link sandbox.settings sandbox.registry guest = .ok linked)
    (memories : guest.memories = [memory]) (least : linked.minPages = memory.min)
    (failed : begin sandbox.engine linked (initialStore sandbox.settings linked) =
      some (.error failure, left)) :
    EngineFails sandbox guest failure.fault := by
  obtain rfl : linked.guest = guest := (Linked.link_ok_iff.mp links).2.2.2.1
  -- The segments come first, in a memory of the initial size.
  rw [begin, Run.bind_apply] at failed
  split at failed
  · cases failed
  · rename_i placed written
    -- The segments are placed, so it is the start function that fails.
    cases started : linked.guest.start with
    | none =>
      rw [started] at failed
      cases failed
    | some id =>
      rw [started] at failed
      dsimp only at failed
      rw [Run.bind_apply] at failed
      split at failed
      · cases failed
      · cases failed
      · rename_i called
        cases failed
        exact .start links started written called (Linked.call_failure called)
  · rename_i written
    cases failed
    obtain ⟨rfl, segment, among, outside⟩ := Wasm.segments_error written
    refine .segment memories among fun short => ?_
    rw [← least]
    exact outside short

/-- The memory of a module that has one is only refused for the limits of the store. -/
theorem Linked.memoryPages_error {sandbox : Sandbox} {guest : Wasm.Module} {failure : Failure}
    (nonempty : guest.memories ≠ [])
    (failed : memoryPages sandbox.settings guest = .error failure) :
    EngineFails sandbox guest failure.fault := by
  -- One memory may ask for too many pages, and more than one are too many.
  unfold memoryPages at failed
  split at failed
  · rename_i memory memories
    dsimp only at failed
    split at failed
    · cases failed
    · rename_i beyond
      cases failed
      exact .tooLarge memories (Nat.lt_of_not_le beyond)
  · rename_i several
    cases failed
    refine .tooMany ?_
    cases memories : guest.memories with
    | nil => exact absurd memories nonempty
    | cons memory rest =>
      cases rest with
      | nil => exact absurd memories (several memory)
      | cons second rest => exact Nat.le_add_left 2 rest.length

/-- The memory of a module that is accepted is its only one, and starts with the pages that it asks for.
It starts within the limit, and cannot grow past it. -/
theorem Linked.memoryPages_ok {settings : Settings} {guest : Wasm.Module} {pages : Nat × Nat}
    (sized : memoryPages settings guest = .ok pages) :
    ∃ memory, guest.memories = [memory] ∧ pages.1 = memory.min ∧
      memory.min ≤ settings.maxMemoryPages.toNat ∧ pages.2 ≤ settings.maxMemoryPages.toNat := by
  -- There is one memory, and the limit bounds what it declares.
  unfold memoryPages at sized
  split at sized
  · rename_i memory memories
    dsimp only at sized
    split at sized
    · rename_i within
      cases sized
      exact ⟨memory, memories, rfl, within, Nat.min_le_right _ _⟩
    · cases sized
  · cases sized

/-- Only a start function can keep a linked guest from ever having begun. -/
theorem Instance.begin_ends {engine : Engine} {linked : Linked} {store : Store}
    (endless : begin engine linked store = none) : ∃ id, linked.guest.start = some id := by
  -- Segments have an end, so without a start function all of it has.
  cases started : linked.guest.start with
  | some id => exact ⟨id, rfl⟩
  | none =>
    rw [begin, Run.bind_apply] at endless
    split at endless
    · rename_i unplaced
      exact absurd unplaced (Wasm.segments_ends _ _)
    · rw [started] at endless
      cases endless
    · cases endless

/-- A module that is linked becomes an instance, unless its segments or its start function fail. -/
theorem Guest.instantiate_linked {sandbox : Sandbox} {code : Wasm.Module} {linked : Linked}
    (links : Linked.link sandbox.settings sandbox.registry code = .ok linked) :
    (Guest.instantiate ⟨sandbox, .loaded code⟩ = none ∧ ∃ id, code.start = some id) ∨
    (∃ store, Guest.instantiate ⟨sandbox, .loaded code⟩ =
      some (.ok (), ⟨sandbox, .instantiated ⟨linked, store⟩⟩)) ∨
    (∃ fault, Guest.instantiate ⟨sandbox, .loaded code⟩ = some (.error fault, ⟨sandbox, .closed⟩) ∧
      EngineFails sandbox code fault) := by
  obtain ⟨_, _, sized, own, _⟩ := Linked.link_ok_iff.mp links
  obtain ⟨memory, memories, least, _⟩ := Linked.memoryPages_ok sized
  rw [instantiate_loaded, Instance.create, links]
  simp only [Run.surface]
  cases begun : Instance.begin sandbox.engine linked
      (Instance.initialStore sandbox.settings linked) with
  | none => exact .inl ⟨rfl, own ▸ Instance.begin_ends begun⟩
  | some ended =>
    obtain ⟨failure | _, left⟩ := ended
    · exact .inr (.inr ⟨_, rfl, Instance.begin_error links memories least begun⟩)
    · exact .inr (.inl ⟨left, rfl⟩)

/-- Instantiating a module fails with a fault before anything runs. The failure is the same for every
engine, and whatever the code of the module and the host functions would do. -/
def Sandbox.Refuses (sandbox : Sandbox) (code : Wasm.Module) (fault : Fault) : Prop :=
  ∀ engine registry other, registry.SameSignatures sandbox.registry →
    other.interface = code.interface →
    Guest.instantiate ⟨⟨engine, sandbox.settings, registry⟩, .loaded other⟩ =
      some (.error fault, ⟨⟨engine, sandbox.settings, registry⟩, .closed⟩)

/-- A module that fails a check is refused. -/
theorem Sandbox.refuses_of_check {sandbox : Sandbox} {code : Wasm.Module} {fault : Fault}
    (failed : Linked.check sandbox.settings sandbox.registry code = .error fault) :
    sandbox.Refuses code fault := by
  -- The checks come first and do not see what differs.
  intro engine registry other same shown
  rw [← Linked.check_congr same shown] at failed
  rw [Guest.instantiate_loaded, Instance.create, Linked.link_check_error failed]

/-- A module that is refused never gets an instance, whatever is done with the guest. -/
theorem Sandbox.Refuses.never {sandbox : Sandbox} {code : Wasm.Module} {fault : Fault}
    (refuses : sandbox.Refuses code fault) {history : List Performed} {after : Guest}
    (performs : Performs ⟨sandbox, .loaded code⟩ history after) : after.stage ≠ .instantiated := by
  -- The guest stays loaded until it is closed, which the attempt to instantiate it does too.
  have stays : after = ⟨sandbox, .loaded code⟩ ∨ after.stage = .closed := by
    refine performs.keeps (fun reached => reached = ⟨sandbox, .loaded code⟩ ∨
      reached.stage = .closed) ?_ (.inl rfl)
    rintro α operation outcome reached left applied (rfl | closed)
    · cases Operation.apply_leads applied with
      | instantiates =>
        rw [Operation.apply, refuses sandbox.engine sandbox.registry code (fun _ _ => rfl) rfl]
          at applied
        cases applied
      | fails | closes => exact .inr rfl
      | _ => exact .inl rfl
    · exact .inr (Operation.apply_closed closed applied ▸ closed)
  intro reached
  rcases stays with rfl | closed
  · cases reached
  · rw [closed] at reached
    cases reached

/--
Instantiation is a gate that a module passes with all its imports bound, or not at all.

A loaded module without the memory that the conventions name is refused, and so is one whose imports do
not resolve, with the fault of the first that does not. Without the system interface, a module that
passes both checks has every function of the registry defined and every import bound to the function
of its names and of the very type that it declares, so only the engine itself can still fail. And a
module with an import that the registry cannot satisfy never becomes an instance.
-/
theorem Guest.instantiation_gate {sandbox : Sandbox} {history : List Performed} {guest : Guest} {code : Wasm.Module}
    (performs : Performs sandbox.guest history guest) (loaded : guest.phase = .loaded code) :
    (code.exportsMemory sandbox.settings.conventions.memoryExport = false →
      sandbox.Refuses code
        (.invalidModule (.memoryRequired sandbox.settings.conventions.memoryExport))) ∧
    (∀ fault, code.exportsMemory sandbox.settings.conventions.memoryExport = true →
      sandbox.registry.resolveImports code.interface.imports
        (if sandbox.settings.wasi then [SystemInterface.space] else []) = .error fault →
      sandbox.Refuses code fault) ∧
    (sandbox.settings.wasi = false →
      code.exportsMemory sandbox.settings.conventions.memoryExport = true →
      sandbox.registry.resolveImports code.interface.imports [] = .ok () →
      sandbox.registry.functions.foldlM Linked.define .empty = .ok sandbox.registry ∧
      ∃ hosts, Linked.Binds sandbox.registry code.imports hosts ∧
        ((guest.instantiate = none ∧ ∃ id, code.start = some id) ∨
          (∃ inst, guest.instantiate = some (.ok (), ⟨sandbox, .instantiated inst⟩) ∧
            inst.linked.guest = code ∧ inst.linked.hosts = hosts) ∨
          (∃ fault, guest.instantiate = some (.error fault, ⟨sandbox, .closed⟩) ∧
            EngineFails sandbox code fault))) ∧
    (∀ item ∈ code.imports,
      (sandbox.settings.wasi = true → item.space ≠ SystemInterface.space) →
      sandbox.registry.resolveImport item.shape ≠ .ok () →
      ∀ later after, Performs guest later after → after.stage ≠ .instantiated) := by
  obtain rfl := performs.eq_of_phase loaded
  have sound : code.defect? = none := performs.sound
  refine ⟨fun missing => Sandbox.refuses_of_check (Linked.check_memory _ missing),
    fun fault exported failed =>
      Sandbox.refuses_of_check ((Linked.check_imports _ exported).trans failed),
    fun off exported resolved => ?_, fun item member outside unresolved later after performed => ?_⟩
  · -- Both checks pass, so the imports are bound and the engine takes over.
    have checked := Linked.check_imports sandbox.registry exported
    rw [off] at checked
    obtain ⟨hosts, bound, links⟩ := Linked.link_of_check off (checked.trans resolved)
    refine ⟨Linked.define_registry sandbox.registry, hosts, bound, ?_⟩
    -- Only functions can be bound, so the exported memory is the module's own.
    have functions : ∀ item ∈ code.imports, ∃ id type, item.kind = .function id type := by
      intro item member
      obtain ⟨entry, binds⟩ := Linked.bindImport_iff_resolveImport.mpr <|
        (Linked.check_ok_iff.mp (checked.trans resolved)).2 item member (by rw [off]; nofun)
      exact ⟨_, _, (Linked.bindImport_ok_iff.mp binds).2⟩
    cases sized : Linked.memoryPages sandbox.settings code with
    | error failure =>
      rw [sized] at links
      rw [instantiate_loaded, Instance.create, links]
      exact .inr (.inr ⟨_, rfl, Linked.memoryPages_error
        (Wasm.Module.memories_ne_nil sound exported functions) sized⟩)
    | ok pages =>
      rw [sized] at links
      refine (instantiate_linked links).imp_right fun ended => ended.imp_left ?_
      exact fun ⟨store, made⟩ => ⟨_, made, rfl, rfl⟩
  · -- Without a way to satisfy the import, one of the two checks fails.
    cases checked : Linked.check sandbox.settings sandbox.registry code with
    | ok _ => exact absurd ((Linked.check_ok_iff.mp checked).2 item member outside) unresolved
    | error fault => exact (Sandbox.refuses_of_check checked).never performed

/-- With its host function registered the guest has its import bound, and without it the guest never
becomes an instance. -/
theorem Guest.instantiation_gate_sample :
    (∃ hosts, Linked.Binds (Sample.registry Sample.descend) Sample.guest.imports hosts) ∧
    ∀ later after, Performs ⟨⟨Sample.engine, .default, .empty⟩, .loaded Sample.guest⟩ later after →
      after.stage ≠ .instantiated := by
  have loads (registry : Registry) : Performs (Sandbox.mk Sample.engine .default registry).guest
      [⟨.load (.described Sample.guest), .ok ()⟩]
      ⟨⟨Sample.engine, .default, registry⟩, .loaded Sample.guest⟩ := .more rfl .none
  constructor
  · obtain ⟨_, _, binds, _⟩ := instantiation_gate (loads (Sample.registry Sample.descend)) rfl
    obtain ⟨_, hosts, bound, _⟩ := binds rfl rfl rfl
    exact ⟨hosts, bound⟩
  · obtain ⟨_, _, _, never⟩ := instantiation_gate (loads .empty) rfl
    exact never _ List.mem_cons_self nofun nofun

end GuestBoundary
