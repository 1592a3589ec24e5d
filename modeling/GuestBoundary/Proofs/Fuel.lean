import GuestBoundary.Proofs.Charges
import GuestBoundary.Proofs.Entries
import GuestBoundary.Proofs.NameIndependence
import GuestBoundary.Proofs.Ownership
import GuestBoundary.Proofs.Tireless

/-! The fuel of a guest: there is none without a limit, and no operation fails for want of it; with a limit
it only falls, and only where guest code is charged. -/

namespace GuestBoundary

section

variable {ε α β : Type}

theorem except_bind_ne_error {failure : ε} {first : Except ε α} {next : α → Except ε β}
    (start : first ≠ .error failure) (rest : ∀ value, next value ≠ .error failure) :
    (first >>= next) ≠ .error failure := by
  cases first with
  | ok value => exact rest value
  | error other =>
    rintro ⟨⟩
    exact start rfl

/-- A check of every member fails only as the check of one does. -/
theorem forM_ne_error {failure : ε} {members : List α} {check : α → Except ε Unit}
    (each : ∀ member, check member ≠ .error failure) : members.forM check ≠ .error failure := by
  induction members with
  | nil => nofun
  | cons member rest ih => exact except_bind_ne_error (each member) fun _ => ih

theorem mapM_ne_error {failure : ε} {members : List α} {step : α → Except ε β}
    (each : ∀ member, step member ≠ .error failure) : members.mapM step ≠ .error failure := by
  induction members with
  | nil => nofun
  | cons member rest ih =>
    rw [List.mapM_cons]
    exact except_bind_ne_error (each member) fun _ => except_bind_ne_error ih fun _ => nofun

/-- Steps of the engine do not end for want of fuel if none of their failures says so. -/
theorem mapError_fault_ne {step : Except Failure α}
    (spares : ∀ failure, failure.fault = .fuelExhausted → step ≠ .error failure) :
    step.mapError Failure.fault ≠ .error .fuelExhausted := by
  cases step with
  | ok value => nofun
  | error failure => exact fun same => spares failure (Except.error.inj same) rfl

end

/-- Imports are not resolved as they should, or they are; fuel has no part in it. -/
theorem Registry.resolveImports_tireless (registry : Registry) (imports : List Wasm.ImportShape)
    (linked : List String) : registry.resolveImports imports linked ≠ .error .fuelExhausted := by
  refine forM_ne_error fun item => ?_
  split
  · nofun
  · unfold resolveImport
    split
    · split <;> nofun
    · nofun
    · nofun

/-- Whatever linking comes to, it is not for want of fuel. -/
theorem Linked.link_tireless (settings : Settings) (registry : Registry) (code : Wasm.Module) :
    link settings registry code ≠ .error .fuelExhausted := by
  -- Step by step: the checks, what is offered, the bindings and the memory.
  have checked : check settings registry code ≠ .error .fuelExhausted := by
    refine except_bind_ne_error ?_ fun _ => registry.resolveImports_tireless _ _
    unfold Wasm.Interface.requireMemory
    split <;> nofun
  have offers : offered settings registry ≠ .error .fuelExhausted := by
    refine except_bind_ne_error (fun failed => ?_) fun offer => ?_
    · obtain ⟨_, ⟨⟩⟩ := foldlM_define_error failed
    · split
      · split
        · nofun
        · intro failed
          obtain ⟨_, ⟨⟩⟩ := foldlM_define_error failed
      · nofun
  have binds (offer : Registry) :
      (code.imports.mapM (bindImport offer)).mapError Failure.fault ≠ .error .fuelExhausted := by
    refine mapError_fault_ne fun failure tells => mapM_ne_error fun item refused => ?_
    unfold bindImport at refused
    split at refused
    · split at refused
      · cases refused
      · cases refused
        cases tells
    · cases refused
      cases tells
  have sized : (memoryPages settings code).mapError Failure.fault ≠ .error .fuelExhausted := by
    refine mapError_fault_ne fun failure tells refused => ?_
    unfold memoryPages at refused
    dsimp only at refused
    split at refused
    · split at refused
      · cases refused
      · cases refused
        cases tells
    · cases refused
      cases tells
  exact except_bind_ne_error checked fun _ => except_bind_ne_error offers fun offer =>
    except_bind_ne_error (binds offer) fun _ => except_bind_ne_error sized fun _ => nofun

/-- An operation whose program, if it runs one, is tireless. -/
def Operation.Tireless {α : Type} : Operation α → Prop
  | .run program => program.Tireless
  | _ => True

/-- The operations of the protocol are all tireless. -/
theorem GuestOperation.tireless {α : Type} (operation : GuestOperation α) :
    operation.operation.Tireless := by
  cases operation with
  | load | instantiate | close => trivial
  | hasExport name => exact Program.tireless_hasExport name
  | call name arguments => exact Program.tireless_invoke name arguments
  | callReturningBytes name arguments form =>
    exact Program.tireless_callReturningBytes name arguments form
  | callWithBytes name bytes form => exact Program.tireless_callWithBytes name bytes form
  | callWithText name text form => exact Program.tireless_callWithText name text form
  | allocate length => exact Program.tireless_allocate length
  | copyIn bytes => exact Program.tireless_copyIn bytes
  | release buffer => exact Program.tireless_release buffer
  | writeOutSlots bytes pointerSlot lengthSlot =>
    exact Program.tireless_writeOutSlots bytes pointerSlot lengthSlot
  | size => exact Program.tireless_bind Program.tireless_resolve Program.tireless_size
  | read offset length =>
    exact Program.tireless_bind Program.tireless_resolve fun view =>
      Program.tireless_read view offset length
  | write offset bytes =>
    exact Program.tireless_bind Program.tireless_resolve fun view =>
      Program.tireless_write view offset bytes

/-- What a guest links against is tireless if all that is registered is. -/
theorem Linked.link_tirelessHosts {settings : Settings} {registry : Registry} {code : Wasm.Module}
    {linked : Linked} (links : link settings registry code = .ok linked)
    (registered : ∀ host ∈ registry.functions, host.Tireless) {id : String} {host : HostFunction}
    (bound : linked.hosts.lookup id = some host) : host.Tireless := by
  rcases link_host_mem links bound with own | ⟨_, shared⟩
  · exact registered host own
  · exact SystemInterface.functions_tireless host shared

section

variable {sandbox : Sandbox}

/-- Without a limit, instantiation does not end for want of fuel and leaves no meter. -/
theorem Instance.create_tireless (unlimited : sandbox.settings.fuelLimit = none)
    (registered : ∀ host ∈ sandbox.registry.functions, host.Tireless) {code : Wasm.Module}
    {outcome : Except Fault Instance}
    (created : create sandbox.engine sandbox.settings sandbox.registry code = some outcome) :
    outcome ≠ .error .fuelExhausted := by
  unfold create at created
  split at created
  · rename_i fault failed
    cases created
    exact fun same => Linked.link_tireless _ _ code (failed.trans (congrArg _ (Except.error.inj same)))
  · rename_i linked links
    -- The store that the instance begins with has no meter.
    have unmetered : (initialStore sandbox.settings linked).fuel = none := by
      rw [initialStore, unlimited]
      rfl
    have begins := begin_tireless (Linked.link_tirelessHosts links registered) sandbox.engine
    simp only [Run.surface] at created
    cases begun : begin sandbox.engine linked (initialStore sandbox.settings linked) with
    | none =>
      rw [begun] at created
      cases created
    | some ended =>
      obtain ⟨failure | ⟨⟩, left⟩ := ended
      · rw [begun] at created
        cases created
        exact fun same => (begins _ _ _ unmetered begun).2 failure rfl (Except.error.inj same)
      · rw [begun] at created
        cases created
        rintro ⟨⟩

variable {guest after : Guest} {α : Type} {operation : Operation α} {outcome : Except Fault α}

/-- Where there is no meter, a tireless operation does not fail for want of fuel. -/
theorem Operation.apply_tireless (unlimited : guest.sandbox.settings.fuelLimit = none)
    (registered : ∀ host ∈ guest.sandbox.registry.functions, host.Tireless) (sound : guest.Sound)
    (unmetered : guest.fuel = none) (tireless : operation.Tireless)
    (applied : operation.apply guest = some (outcome, after)) : outcome ≠ .error .fuelExhausted := by
  cases apply_leads applied with
  | refused | loads | instantiates | closes | inspects => nofun
  | unreadable unread =>
    obtain ⟨_, rfl⟩ := Wasm.Source.read_error unread
    nofun
  | fails failed => exact fun same =>
      Instance.create_tireless unlimited registered failed (congrArg _ (Except.error.inj same))
  | @runs _ sandbox inst left program _ performed =>
    have calls : (Instance.context sandbox.engine inst.linked).CallsTireless :=
      Linked.call_tireless (Linked.link_tirelessHosts sound.2 registered) _ _ .host
    exact (Context.perform_tireless calls tireless unmetered (Instance.perform_store performed)).2

end

/-- The fuel that an instance has left is what its life has not charged. -/
theorem Guest.Lived.fuel_eq {guest : Guest} {tasks : List HostTask} (lived : guest.Lived tasks)
    {inst : Instance} (holds : guest.phase = .instantiated inst) :
    ∃ started,
      Instance.begin guest.sandbox.engine inst.linked
        (Instance.initialStore guest.sandbox.settings inst.linked) = some (.ok (), started) ∧
      Instance.performAll guest.sandbox.engine inst.linked tasks started = some inst.store ∧
      ∀ annotations : Annotations inst.linked,
        let life := Instance.life guest.sandbox.engine annotations guest.sandbox.settings tasks
        inst.store.fuel = guest.sandbox.settings.fuelLimit.map (·.toNat - charges life) ∧
        ∀ moments moment later, life = moments ++ moment :: later →
          moment.before.fuel = guest.sandbox.settings.fuelLimit.map (·.toNat - charges moments) := by
  obtain ⟨started, begun, stored⟩ := lived.stored holds
  refine ⟨started, begun, stored, fun annotations => ?_⟩
  -- Its moments lead from the first store, whose meter shows the limit, to the last one.
  obtain ⟨last, timeline, ends⟩ :=
    Instance.life_told guest.sandbox.engine annotations guest.sandbox.settings tasks
  obtain rfl := ends started inst.store begun stored
  have limit (count : Nat) :
      (Instance.initialStore guest.sandbox.settings inst.linked).fuel.map (· - count) =
        guest.sandbox.settings.fuelLimit.map (·.toNat - count) := by
    rw [Instance.initialStore, Option.map_map]
    rfl
  refine ⟨timeline.fuel_eq.trans (limit _), fun moments moment later lived => ?_⟩
  rw [lived] at timeline
  exact timeline.before_fuel_eq.trans (limit _)

section

variable {α : Type} {guest after : Guest} {outcome : Except Fault α}

/-- What a program that the host runs has charged is taken from the meter, and nothing else. -/
theorem Guest.run_fuel {sandbox : Sandbox} {inst : Instance} {program : Program α}
    (ran : Guest.run ⟨sandbox, .instantiated inst⟩ program = some (outcome, after)) :
    after.fuel = inst.store.fuel.map (· - charges ((Annotated.plain .own program).moments
      (Instance.context sandbox.engine inst.linked)
      (inst.linked.moments (.plain inst.linked) sandbox.engine.patience sandbox.engine.depth .host)
      inst.store)) := by
  rw [run_instantiated] at ran
  split at ran
  · cases ran
  · rename_i outcome left performed
    cases ran
    -- The moments of the program tell of it.
    obtain ⟨last, timeline, ends⟩ := Annotated.toldAt_own
      (Instance.context_callsTold sandbox.engine (.plain inst.linked)) program [] inst.store
    have reached := Instance.perform_store performed
    rw [← Annotated.program_plain .own program] at reached
    obtain rfl := ends _ _ reached
    exact timeline.fuel_eq

/-- A program of which all functions that it enters are of the host takes nothing. -/
theorem Guest.run_uncharged {sandbox : Sandbox} {inst : Instance} {program : Program α}
    (ran : Guest.run ⟨sandbox, .instantiated inst⟩ program = some (outcome, after))
    (alone : EntersHostsAlone inst.linked ((Annotated.plain .own program).moments
      (Instance.context sandbox.engine inst.linked)
      (inst.linked.moments (.plain inst.linked) sandbox.engine.patience sandbox.engine.depth .host)
      inst.store)) : after.fuel = inst.store.fuel := by
  have nothing := Annotated.moments_uncharged
    (Linked.moments_uncharged (.plain inst.linked) _ _ .host) _ _ alone
  rw [run_fuel ran, nothing]
  exact Option.map_id'

/-- An operation that runs no guest code wherever it is performed: it looks at the interface or at the
instance, or works on memory. -/
def Operation.Idle {α : Type} : Operation α → Prop
  | .inspect _ => True
  | .run program => program.Quiet
  | _ => False

/-- An idle operation leaves the fuel as it is. -/
theorem Operation.Idle.fuel_eq {operation : Operation α} (idle : operation.Idle)
    (applied : operation.apply guest = some (outcome, after)) : after.fuel = guest.fuel := by
  cases apply_leads applied with
  | refused | inspects => rfl
  | loads | unreadable | instantiates | fails | closes => exact idle.elim
  | runs => exact Guest.run_uncharged applied (Annotated.quiet_entersHostsAlone idle .own _)

/-- Looking for exports and their signatures, and the operations on memory, run no guest code. -/
theorem GuestOperation.idle :
    (∀ {α : Type} (look : Wasm.Interface → α), (Operation.inspect look).Idle) ∧
    (∀ name, (hasExport name).operation.Idle) ∧
    (∀ name, (Operation.run (Program.signature name)).Idle) ∧
    (∀ name, (Operation.run (.ask (.memorySize name) .done)).Idle) ∧
    size.operation.Idle ∧
    (∀ offset length, (read offset length).operation.Idle) ∧
    ∀ offset bytes, (write offset bytes).operation.Idle :=
  ⟨fun _ => trivial, Program.quiet_hasExport, Program.quiet_signature,
    fun _ => ⟨nofun, fun _ => trivial⟩,
    Program.asks_bind Program.quiet_resolve Program.quiet_size,
    fun _ _ => Program.asks_bind Program.quiet_resolve fun _ => ⟨nofun, Program.asks_settle⟩,
    fun offset bytes => Program.asks_bind Program.quiet_resolve fun view =>
      Program.quiet_write view offset bytes⟩

/-- A guest whose instance has no more fuel than was left before, or which is closed. -/
def Guest.Burns (guest : Guest) (fuel : Option Nat) : Prop :=
  match guest.phase with
  | .instantiated inst => Option.Rel (fun rest fuel => rest ≤ fuel) inst.store.fuel fuel
  | .closed => True
  | _ => False

/-- No operation gives fuel back. -/
theorem Operation.apply_burns {operation : Operation α} {fuel : Option Nat}
    (applied : operation.apply guest = some (outcome, after)) (burns : guest.Burns fuel) :
    after.Burns fuel := by
  cases apply_leads applied with
  | refused | inspects => exact burns
  | loads | unreadable | instantiates | fails => exact burns.elim
  | closes => trivial
  | @runs _ sandbox inst left program _ performed =>
    -- A program leaves what it has not been charged for.
    have taken : left.store.fuel = inst.store.fuel.map _ := Guest.run_fuel applied
    unfold Guest.Burns at burns ⊢
    dsimp only at burns ⊢
    rw [taken]
    revert burns
    generalize inst.store.fuel = before
    rintro (within | _)
    · exact .some (Nat.le_trans (Nat.sub_le _ _) within)
    · exact .none

end

namespace Guest

variable {sandbox : Sandbox} {history : List Performed} {guest : Guest}

/-- Without a limit, no guest has a meter. -/
theorem fuel_unlimited (unlimited : sandbox.settings.fuelLimit = none)
    (performs : Performs sandbox.guest history guest) : guest.fuel = none := by
  obtain ⟨own, phase⟩ := guest
  cases performs.stage_eq.2
  cases phase with
  | instantiated inst =>
    obtain ⟨_, _, _, told⟩ := performs.lived.fuel_eq rfl
    obtain ⟨left, _⟩ := told (.plain inst.linked)
    refine left.trans ?_
    rw [unlimited]
    rfl
  | _ => rfl

/-- Without a limit, no operation of a history fails for want of fuel, unless a registered function or
a program of the host says so itself. -/
theorem never_exhausted (unlimited : sandbox.settings.fuelLimit = none)
    (registered : ∀ host ∈ sandbox.registry.functions, host.Tireless)
    (performs : Performs sandbox.guest history guest)
    (operations : ∀ performed ∈ history, performed.operation.Tireless) :
    ∀ performed ∈ history, performed.outcome ≠ .error .fuelExhausted := by
  intro performed member
  obtain ⟨first, second, rfl⟩ := List.append_of_mem member
  -- What it was performed on comes from the sandbox as well, and has no meter.
  obtain ⟨middle, _, before, applied, _⟩ := performs.part
  have kept : middle.sandbox = sandbox := before.stage_eq.2
  exact Operation.apply_tireless (by rw [kept]; exact unlimited) (by rw [kept]; exact registered)
    before.sound (fuel_unlimited unlimited before) (operations performed member) applied

end Guest

/--
The fuel of a guest is spent by its code alone, and is never given back.

Without a limit there is no meter, and no operation fails for want of fuel, unless a registered function or
a program of the host raises that fault itself; the operations of the protocol and the standard
capabilities do not. With a limit, an instance has the limit less what it has charged since it was
instantiated, while it performed the programs of its history, and so it is at every moment of that life,
also inside host functions and after what has failed; whatever is done with it later leaves no more. A
program that the host runs takes what it is charged, which is nothing if all functions that it enters are
of the host, or if it calls nothing: looking at the interface, for an export, a signature or a memory, and
reading and writing memory leave the fuel as it is. A call and a release that are turned down leave the
whole guest as it is.
-/
theorem Guest.fuel_law {sandbox : Sandbox} {history : List Performed} {guest : Guest}
    (performs : Performs sandbox.guest history guest) :
    (sandbox.settings.fuelLimit = none → guest.fuel = none ∧
      ((∀ host ∈ sandbox.registry.functions, host.Tireless) →
        (∀ performed ∈ history, performed.operation.Tireless) →
          ∀ performed ∈ history, performed.outcome ≠ .error .fuelExhausted)) ∧
    (∀ {α : Type} (operation : GuestOperation α), operation.operation.Tireless) ∧
    (∀ host, Capability.Standard host → host.Tireless) ∧
    (∀ {α : Type} (operation : Operation α) outcome after, operation.Idle →
      operation.apply guest = some (outcome, after) → after.fuel = guest.fuel) ∧
    ((∀ {α : Type} (look : Wasm.Interface → α), (Operation.inspect look).Idle) ∧
      (∀ name, (GuestOperation.hasExport name).operation.Idle) ∧
      (∀ name, (Operation.run (Program.signature name)).Idle) ∧
      (∀ name, (Operation.run (.ask (.memorySize name) .done)).Idle) ∧
      GuestOperation.size.operation.Idle ∧
      (∀ offset length, (GuestOperation.read offset length).operation.Idle) ∧
      ∀ offset bytes, (GuestOperation.write offset bytes).operation.Idle) ∧
    ∀ inst, guest.phase = .instantiated inst →
      (∃ started, let tasks := Performed.tasks .unloaded history
        Instance.begin sandbox.engine inst.linked
          (Instance.initialStore sandbox.settings inst.linked) = some (.ok (), started) ∧
        Instance.performAll sandbox.engine inst.linked tasks started = some inst.store ∧
        ∀ annotations : Annotations inst.linked,
          let life := Instance.life sandbox.engine annotations sandbox.settings tasks
          guest.fuel = sandbox.settings.fuelLimit.map (·.toNat - charges life) ∧
          ∀ moments moment later, life = moments ++ moment :: later →
            moment.before.fuel = sandbox.settings.fuelLimit.map (·.toNat - charges moments)) ∧
      (∀ later after, Performs guest later after → after.stage = .instantiated →
        Option.Rel (fun rest fuel => rest ≤ fuel) after.fuel guest.fuel) ∧
      (∀ {α : Type} (program : Program α) outcome after, guest.run program = some (outcome, after) →
        let moments := (Annotated.plain .own program).moments
          (Instance.context sandbox.engine inst.linked)
          (inst.linked.moments (.plain inst.linked) sandbox.engine.patience sandbox.engine.depth .host)
          inst.store
        after.fuel = guest.fuel.map (· - charges moments) ∧
        (EntersHostsAlone inst.linked moments ∨ program.Quiet → after.fuel = guest.fuel)) ∧
      (∀ name arguments fault,
        (Instance.context sandbox.engine inst.linked).prepare name arguments = .error fault →
          guest.run (Program.invoke name arguments) = some (.error fault, guest)) ∧
      ∀ buffer : Buffer, buffer.owner ≠ .hostOwned →
        guest.run (Program.release buffer) = some (.error (.releaseRejected buffer.owner), guest) := by
  refine ⟨fun unlimited => ⟨fuel_unlimited unlimited performs, fun registered operations =>
    never_exhausted unlimited registered performs operations⟩, GuestOperation.tireless,
    fun _ => Capability.Standard.tireless, fun operation _ _ idle applied => idle.fuel_eq applied,
    GuestOperation.idle, fun inst holds => ?_⟩
  obtain rfl := performs.eq_of_phase holds
  refine ⟨performs.lived.fuel_eq rfl, fun later after goesOn stage => ?_,
    fun program outcome after ran => ⟨run_fuel ran, fun uncharged => ?_⟩,
    fun name arguments fault refused => ?_, fun buffer other => ?_⟩
  · -- The guest is not loaded again, so its instance has burned what is missing.
    have same : Option.Rel (fun rest fuel => rest ≤ fuel) inst.store.fuel inst.store.fuel := by
      cases inst.store.fuel with
      | none => exact .none
      | some fuel => exact .some (Nat.le_refl fuel)
    have burns : after.Burns inst.store.fuel :=
      goesOn.keeps (·.Burns inst.store.fuel) Operation.apply_burns same
    obtain ⟨own, phase⟩ := after
    cases phase with
    | instantiated left => exact burns
    | _ => cases stage
  · -- In either case nothing that is entered is guest code.
    exact run_uncharged ran <| uncharged.elim id fun quiet =>
      Annotated.quiet_entersHostsAlone quiet .own inst.store
  · rw [run_instantiated, Instance.perform, Context.perform_invoke, Context.invoke, refused]
  · rw [run_instantiated, Instance.perform, Context.perform_release_rejected other]

theorem Sample.nest_tireless : (Sample.visit Sample.nest).Tireless := by
  intro arguments
  change (Sample.nest arguments).Tireless
  unfold Sample.nest
  split
  · split
    · nofun
    · exact Program.tireless_withGuestBytes _ fun _ => Program.tireless_invoke _ _
  · trivial

/-- Of ten units, a call that opens a scope, re-enters the guest and fails in it takes four: one for each
of the two calls, one for the allocator and one for the deallocator. Six are left, and never more than
that, whatever follows. Without a limit nothing is taken, and the call does not fail for want of fuel. -/
theorem Guest.fuel_law_sample :
    let sandbox (fuelLimit : Option UInt64) : Sandbox :=
      ⟨Sample.engine, { Settings.default with fuelLimit }, Sample.registry Sample.nest⟩
    let history : List Performed :=
      [⟨.load (.described Sample.guest), .ok ()⟩, ⟨.instantiate, .ok ()⟩,
        ⟨.run (Program.invoke "relay" [.i32 1]), .error (.engine "stop")⟩]
    (∃ guest, Performs (sandbox (some 10)).guest history guest ∧ guest.fuel = some 6 ∧
      guest.run (Program.invoke "relay" []) = some (.error (.arityMismatch "relay" 1 0), guest) ∧
      ∀ later after, Performs guest later after → after.stage = .instantiated →
        ∃ rest, after.fuel = some rest ∧ rest ≤ 6) ∧
    ∃ guest, Performs (sandbox none).guest history guest ∧ guest.fuel = none ∧
      ∀ performed ∈ history, performed.outcome ≠ .error .fuelExhausted := by
  intro sandbox history
  constructor
  · have performs : Performs (sandbox (some 10)).guest history _ :=
      .more rfl (.more rfl (.more rfl .none))
    obtain ⟨_, _, _, _, _, metered⟩ := fuel_law performs
    obtain ⟨_, falls, _, turnedDown, _⟩ := metered _ rfl
    refine ⟨_, performs, rfl, turnedDown _ _ _ rfl, fun later after goesOn stage => ?_⟩
    have less : Option.Rel (fun rest fuel => rest ≤ fuel) after.fuel (some 6) :=
      falls later after goesOn stage
    generalize after.fuel = left at less
    cases less with
    | some within => exact ⟨_, rfl, within⟩
  · have performs : Performs (sandbox none).guest history _ := .more rfl (.more rfl (.more rfl .none))
    obtain ⟨unlimited, operations, _⟩ := fuel_law performs
    obtain ⟨unmetered, spares⟩ := unlimited rfl
    refine ⟨_, performs, unmetered, spares ?_ ?_⟩
    · intro host member
      cases List.mem_singleton.mp member
      exact Sample.nest_tireless
    · simp only [history, List.forall_mem_cons]
      exact ⟨trivial, trivial, operations (.call "relay" [.i32 1]), fun _ => nofun⟩

/-- A host function that raises the fault of exhausted fuel itself fails a call with it, also where nothing
is metered. -/
theorem Guest.fuel_law_raised :
    let sandbox : Sandbox :=
      ⟨Sample.engine, .default, Sample.registry fun _ => .fail .fuelExhausted⟩
    sandbox.settings.fuelLimit = none ∧
    ∃ guest, Performs sandbox.guest
      [⟨.load (.described Sample.guest), .ok ()⟩, ⟨.instantiate, .ok ()⟩,
        ⟨.run (Program.invoke "relay" [.i32 1]), .error .fuelExhausted⟩] guest :=
  ⟨rfl, _, .more rfl (.more rfl (.more rfl .none))⟩

end GuestBoundary
