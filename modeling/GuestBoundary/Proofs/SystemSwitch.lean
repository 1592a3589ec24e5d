import GuestBoundary.Proofs.Lifecycle

/-! Switching the system interface on and off: guests that import nothing from it do not notice, as long as
no registered function has one of its names. -/

namespace GuestBoundary

/-- Settings with the system interface on or off. -/
def Settings.switch (on : Bool) (settings : Settings) : Settings := { settings with wasi := on }

/-- A sandbox with the system interface on or off. -/
def Sandbox.switch (on : Bool) (sandbox : Sandbox) : Sandbox :=
  { sandbox with settings := sandbox.settings.switch on }

/-- A guest whose sandbox has the system interface on or off, at the same phase. -/
def Guest.switch (on : Bool) (guest : Guest) : Guest :=
  { guest with sandbox := guest.sandbox.switch on }

/-- A module that imports nothing from the system interface. -/
def Wasm.Module.SystemFree (code : Wasm.Module) : Prop :=
  ∀ item ∈ code.imports, item.space ≠ SystemInterface.space

instance (code : Wasm.Module) : Decidable code.SystemFree :=
  inferInstanceAs (Decidable (∀ item ∈ code.imports, item.space ≠ SystemInterface.space))

/-- A registry without a function under a name that the system interface defines. -/
def Registry.LeavesSystem (registry : Registry) : Prop :=
  ∀ name ∈ SystemInterface.names, registry.get? SystemInterface.space name = none

namespace Registry

/-- Outside its namespace, the system interface adds nothing to what is found. -/
theorem get?_append_system {registry larger : Registry}
    (adds : larger.functions = registry.functions ++ SystemInterface.functions) {space : String}
    (outside : space ≠ SystemInterface.space) (name : String) :
    larger.get? space name = registry.get? space name := by
  -- No function of the system interface has another namespace than its own.
  have absent : SystemInterface.functions.find?
      (fun function => function.space == space && function.name == name) = none := by
    rw [List.find?_eq_none]
    intro function member
    have own : function.space = SystemInterface.space := by
      simp only [SystemInterface.functions, List.mem_cons, List.not_mem_nil, or_false] at member
      rcases member with rfl | rfl <;> rfl
    simp [own, Ne.symm outside]
  simp only [get?, adds, List.find?_append, absent, Option.or_none]

/-- Where no import is of a linked namespace, it does not matter which namespaces are linked. -/
theorem resolveImports_unlinked (registry : Registry) {imports : List Wasm.ImportShape}
    {linked : List String} (outside : ∀ item ∈ imports, item.space ∉ linked) :
    registry.resolveImports imports linked = registry.resolveImports imports [] := by
  have kept : imports.filter (fun item => !linked.contains item.space) = imports :=
    List.filter_eq_self.mpr (by simpa using outside)
  rw [resolveImports_filter, kept]
  rfl

/-- A registry leaves the system interface alone exactly if none of its names is found there. -/
theorem leavesSystem_iff {registry : Registry} :
    registry.LeavesSystem ↔
      (SystemInterface.names.find? fun name =>
        (registry.get? SystemInterface.space name).isSome) = none := by
  simp [LeavesSystem, List.find?_eq_none]

instance (registry : Registry) : Decidable registry.LeavesSystem :=
  decidable_of_iff _ leavesSystem_iff.symm

end Registry

namespace Linked

variable {settings : Settings} {registry : Registry} {code : Wasm.Module}

/-- The checks of a module that leaves the system interface alone do not depend on the switch. -/
theorem check_switch (free : code.SystemFree) (on : Bool) :
    check (settings.switch on) registry code = check settings registry code := by
  -- None of the imports is of a namespace that the switch could link.
  have outside (on : Bool) : ∀ item ∈ code.interface.imports,
      item.space ∉ (if on then [SystemInterface.space] else []) := by
    intro shape member
    obtain ⟨item, imported, rfl⟩ := List.mem_map.mp member
    cases on with
    | true => simpa [Wasm.Import.shape] using free item imported
    | false => simp
  unfold check
  rw [registry.resolveImports_unlinked (outside settings.wasi),
    registry.resolveImports_unlinked (outside (settings.switch on).wasi)]
  rfl

/-- What is offered with the system interface on: its functions come last, unless one of its names is
taken. -/
theorem offered_on (settings : Settings) (registry : Registry) :
    offered (settings.switch true) registry =
      match SystemInterface.names.find? fun name =>
          (registry.get? SystemInterface.space name).isSome with
      | some name => .error (.engine s!"{name} is defined twice")
      | none => SystemInterface.functions.foldlM define registry := by
  unfold offered
  rw [define_registry]
  rfl

/-- With the system interface on, its functions are offered after those of the registry, whose names
must leave it alone. -/
theorem offered_switch (settings : Settings) (leaves : registry.LeavesSystem) :
    ∃ larger, offered (settings.switch true) registry = .ok larger ∧
      larger.functions = registry.functions ++ SystemInterface.functions := by
  -- The functions of the interface have names of their own, which the registry leaves free.
  have own : ∀ host ∈ SystemInterface.functions,
      host.space = SystemInterface.space ∧ host.name ∈ SystemInterface.names := by
    simp only [SystemInterface.functions, List.mem_cons, List.not_mem_nil, or_false, forall_eq_or_imp,
      forall_eq]
    exact ⟨⟨rfl, by decide⟩, rfl, by decide⟩
  have differ : SystemInterface.functions.Pairwise HostFunction.Apart :=
    List.pairwise_pair.mpr fun same => absurd same.2 (by decide)
  have apart : (registry.functions ++ SystemInterface.functions).Pairwise HostFunction.Apart := by
    refine List.pairwise_append.mpr ⟨registry.distinct, differ, ?_⟩
    intro function member host offered same
    obtain ⟨space, name⟩ := own host offered
    exact Registry.get?_eq_none_iff.mp (leaves host.name name) function member
      ⟨same.1.trans space, same.2⟩
  refine ⟨⟨_, apart⟩, ?_, rfl⟩
  rw [offered_on, Registry.leavesSystem_iff.mp leaves]
  exact foldlM_define_eq rfl

/-- Imports from elsewhere are bound as if the system interface were not offered. -/
theorem bindImports_system {larger : Registry}
    (adds : larger.functions = registry.functions ++ SystemInterface.functions)
    {imports : List Wasm.Import} (outside : ∀ item ∈ imports, item.space ≠ SystemInterface.space) :
    imports.mapM (bindImport larger) = imports.mapM (bindImport registry) := by
  induction imports with
  | nil => rfl
  | cons item rest ih =>
    obtain ⟨first, others⟩ := List.forall_mem_cons.mp outside
    have same : bindImport larger item = bindImport registry item := by
      simp only [bindImport, Registry.get?_append_system adds first]
    rw [List.mapM_cons, List.mapM_cons, same, ih others]

/-- A module that leaves the system interface alone links in the same way with it on, or fails in the
same way, if the registry leaves it alone too. -/
theorem link_switch (leaves : registry.LeavesSystem) (free : code.SystemFree) :
    link (settings.switch true) registry code = link (settings.switch false) registry code := by
  -- The checks agree, and so does what the imports are bound to.
  obtain ⟨larger, on, adds⟩ := offered_switch settings leaves
  have off : offered (settings.switch false) registry = .ok registry := offered_registry registry rfl
  unfold link
  rw [check_switch free true, check_switch free false, on, off]
  cases check settings registry code with
  | error fault => rfl
  | ok _ =>
    change ((code.imports.mapM (bindImport larger)).mapError Failure.fault >>= _) = _
    rw [bindImports_system adds free]
    rfl

/-- Where a registered function has a name of the system interface, nothing links with it on that has
passed the checks. -/
theorem link_clash (clash : ¬ registry.LeavesSystem)
    (checked : check (settings.switch true) registry code = .ok ()) :
    ∃ text, link (settings.switch true) registry code = .error (.engine text) := by
  unfold link
  rw [checked]
  -- The definitions come right after the checks, and fail over the clash.
  rw [offered_on]
  split
  · exact ⟨_, rfl⟩
  · rename_i clear
    exact absurd (Registry.leavesSystem_iff.mpr clear) clash

end Linked

/-- An instance is created in the same way with the system interface on and off. -/
theorem Instance.create_switch {engine : Engine} {settings : Settings} {registry : Registry}
    {code : Wasm.Module} (leaves : registry.LeavesSystem) (free : code.SystemFree) :
    create engine (settings.switch true) registry code =
      create engine (settings.switch false) registry code := by
  -- Only linking asks for the switch; the store that an instance starts from does not depend on it.
  unfold create
  rw [Linked.link_switch leaves free]
  rfl

/-- An operation that loads no module with imports from the system interface. -/
def Operation.SystemFree {α : Type} : Operation α → Prop
  | .load source => ∀ code, source.read = .ok code → code.SystemFree
  | _ => True

/-- A guest that, if it is loaded, imports nothing from the system interface. -/
def Guest.SystemFree (guest : Guest) : Prop :=
  ∀ code, guest.phase = .loaded code → code.SystemFree

namespace Operation

variable {α : Type} {operation : Operation α} {outcome : Except Fault α} {guest after : Guest}

/-- Operations that load no use of the system interface leave a guest without one. -/
theorem apply_systemFree (free : operation.SystemFree)
    (applied : operation.apply guest = some (outcome, after)) (before : guest.SystemFree) :
    after.SystemFree := by
  -- Loading is the only way to a loaded module.
  cases apply_leads applied with
  | refused | inspects => exact before
  | @loads _ _ code read =>
    rintro _ ⟨⟩
    exact free code read
  | _ => exact fun _ => nofun

/-- Where the switch has no part in instantiation, no operation notices it. -/
theorem apply_switch (operation : Operation α) (before : guest.SystemFree)
    (leaves : guest.stage = .loaded → guest.sandbox.registry.LeavesSystem) :
    operation.apply (guest.switch true) =
      (operation.apply (guest.switch false)).map fun (outcome, after) =>
        (outcome, after.switch true) := by
  -- Only the instantiation of a loaded guest looks at the settings at all.
  obtain ⟨sandbox, phase⟩ := guest
  cases operation with
  | load source =>
    cases phase with
    | unloaded =>
      simp only [apply, Guest.switch, Guest.load_unloaded]
      split <;> rfl
    | _ => rfl
  | instantiate =>
    cases phase with
    | loaded code =>
      have same : Instance.create sandbox.engine (sandbox.settings.switch true) sandbox.registry code =
          Instance.create sandbox.engine (sandbox.settings.switch false) sandbox.registry code :=
        Instance.create_switch (leaves rfl) (before code rfl)
      simp only [apply, Guest.switch, Guest.instantiate_loaded, Sandbox.switch, same]
      split <;> rfl
    | _ => rfl
  | run program =>
    cases phase with
    | instantiated inst =>
      simp only [apply, Guest.switch, Guest.run_instantiated, Sandbox.switch]
      split <;> rfl
    | _ => rfl
  | close | inspect => rfl

end Operation

namespace Performs

variable {sandbox : Sandbox} {history : List Performed}

/-- A history that loads no use of the system interface leaves a guest without one. -/
theorem systemFree {guest after : Guest} (performs : Performs guest history after)
    (free : ∀ performed ∈ history, performed.operation.SystemFree) (before : guest.SystemFree) :
    after.SystemFree := by
  induction performs with
  | none => exact before
  | more applied _ ih =>
    obtain ⟨first, rest⟩ := List.forall_mem_cons.mp free
    exact ih rest (Operation.apply_systemFree first applied before)

/-- A history takes place with the system interface on exactly if it does with it off, from guests and to
guests that differ in the switch alone. -/
theorem switch_iff {guest last : Guest} (before : guest.SystemFree)
    (leaves : guest.sandbox.registry.LeavesSystem)
    (free : ∀ performed ∈ history, performed.operation.SystemFree) :
    Performs (guest.switch true) history last ↔
      ∃ after, Performs (guest.switch false) history after ∧ last = after.switch true := by
  -- By induction on the history: each operation ends alike and leaves such guests again.
  induction history generalizing guest with
  | nil =>
    constructor
    · rintro ⟨⟩
      exact ⟨_, .none, rfl⟩
    · rintro ⟨_, ⟨⟩, rfl⟩
      exact .none
  | cons performed rest ih =>
    obtain ⟨operation, outcome⟩ := performed
    obtain ⟨first, others⟩ := List.forall_mem_cons.mp free
    have alike := operation.apply_switch before fun _ => leaves
    -- What the operation leaves with the interface off has the same registry, and no use of it either.
    have onward {middle : Guest}
        (applied : operation.apply (guest.switch false) = some (outcome, middle)) :
        Performs (middle.switch true) rest last ↔
          ∃ after, Performs middle rest after ∧ last = after.switch true := by
      have kept := (Operation.apply_stage applied).2
      have off : middle.switch false = middle := by
        obtain ⟨own, phase⟩ := middle
        cases kept
        rfl
      have clear : middle.SystemFree := Operation.apply_systemFree first applied before
      have step := ih clear (by rw [kept]; exact leaves) others
      rwa [off] at step
    constructor
    · intro performs
      cases performs with
      | more applied performs =>
        rw [alike, Option.map_eq_some_iff] at applied
        obtain ⟨⟨_, middle⟩, applied, same⟩ := applied
        cases same
        obtain ⟨after, performs, same⟩ := (onward applied).mp performs
        exact ⟨after, .more applied performs, same⟩
    · rintro ⟨after, performs, same⟩
      cases performs with
      | more applied performs =>
        refine .more ?_ ((onward applied).mpr ⟨after, performs, same⟩)
        rw [alike, applied]
        rfl

end Performs

/-- A module that leaves the system interface alone fails its checks with it on as with it off, and if it
passes them is refused by the engine where a registered function has one of the system's names. -/
theorem Guest.instantiate_clash {sandbox : Sandbox} {code : Wasm.Module}
    (clash : ¬ sandbox.registry.LeavesSystem) (free : code.SystemFree) :
    (∀ fault, Linked.check sandbox.settings sandbox.registry code = .error fault →
      ∀ on, Guest.instantiate ⟨sandbox.switch on, .loaded code⟩ =
        some (.error fault, ⟨sandbox.switch on, .closed⟩)) ∧
    (Linked.check sandbox.settings sandbox.registry code = .ok () →
      ∃ text, Guest.instantiate ⟨sandbox.switch true, .loaded code⟩ =
        some (.error (.engine text), ⟨sandbox.switch true, .closed⟩)) := by
  -- A guest whose module does not link is closed with the fault of that.
  have closes {on : Bool} {fault : Fault}
      (failed : Linked.link (sandbox.settings.switch on) sandbox.registry code = .error fault) :
      Guest.instantiate ⟨sandbox.switch on, .loaded code⟩ =
        some (.error fault, ⟨sandbox.switch on, .closed⟩) := by
    simp only [instantiate_loaded, Sandbox.switch, Instance.create, failed]
  constructor
  · intro fault failed on
    refine closes ?_
    rw [Linked.link, Linked.check_switch free, failed]
    rfl
  · intro passed
    rw [← Linked.check_switch free true] at passed
    obtain ⟨text, refused⟩ := Linked.link_clash clash passed
    exact ⟨text, closes refused⟩

/--
Guests that import nothing from the system interface notice it exactly by its names in the registry.

If no registered function has one of those names, the same histories of such guests take place with the
interface on and off, operation for operation with the same outcome and the same phase, and so with the
same module, memory and log; an operation that would never end does not end in either. A guest that is
not loaded does not notice it, whatever is registered. If a registered function has one of the names, a
module that fails its checks fails with the same fault, and every module that passes them is refused by
the engine with the interface on, and its guest closed.
-/
theorem Guest.system_switch (sandbox : Sandbox) :
    (sandbox.registry.LeavesSystem →
      ∀ history : List Performed, (∀ performed ∈ history, performed.operation.SystemFree) →
        (∀ last, Performs (sandbox.switch true).guest history last ↔
          ∃ after, Performs (sandbox.switch false).guest history after ∧ last = after.switch true) ∧
        ∀ after, Performs (sandbox.switch false).guest history after →
          ∀ {α : Type} (operation : Operation α),
            operation.apply (after.switch true) =
              (operation.apply after).map fun (outcome, left) => (outcome, left.switch true)) ∧
    (∀ phase, Phase.stage phase ≠ .loaded → ∀ {α : Type} (operation : Operation α),
      operation.apply ⟨sandbox.switch true, phase⟩ =
        (operation.apply ⟨sandbox.switch false, phase⟩).map fun (outcome, left) =>
          (outcome, left.switch true)) ∧
    (¬ sandbox.registry.LeavesSystem → ∀ code : Wasm.Module, code.SystemFree →
      (∀ fault, Linked.check sandbox.settings sandbox.registry code = .error fault →
        ∀ on, Guest.instantiate ⟨sandbox.switch on, .loaded code⟩ =
          some (.error fault, ⟨sandbox.switch on, .closed⟩)) ∧
      (Linked.check sandbox.settings sandbox.registry code = .ok () →
        ∃ text, Guest.instantiate ⟨sandbox.switch true, .loaded code⟩ =
          some (.error (.engine text), ⟨sandbox.switch true, .closed⟩))) := by
  have fresh : sandbox.guest.SystemFree := fun _ => nofun
  refine ⟨fun leaves history free => ⟨fun last => ?_, fun after performs α operation => ?_⟩,
    fun phase unloaded α operation => ?_, fun clash code free => instantiate_clash clash free⟩
  · exact Performs.switch_iff fresh leaves free
  · -- What was reached with the interface off is its own switched off version.
    have kept := performs.stage_eq.2
    have clear : after.SystemFree := performs.systemFree free fresh
    have alike := operation.apply_switch clear fun _ => by rw [kept]; exact leaves
    obtain ⟨own, phase⟩ := after
    cases kept
    exact alike
  · have clear : Guest.SystemFree ⟨sandbox, phase⟩ := by
      rintro code ⟨⟩
      exact absurd rfl unloaded
    exact operation.apply_switch clear fun loaded => absurd loaded unloaded

/-- A registered function under a name of the system interface. -/
def Sample.output : HostFunction :=
  ⟨SystemInterface.space, "fd_write", .words 4 1, fun _ => .done [.i32 0]⟩

/-- The registry of the function that guests import and of this one. -/
def Sample.clashing : Registry :=
  ⟨[Sample.visit Sample.descend, Sample.output], List.pairwise_pair.mpr fun same =>
    absurd same.2 (by decide)⟩

theorem Sample.guest_systemFree : Sample.guest.SystemFree := by decide

/-- A guest is loaded, started and called with the system interface on as with it off, and refused with
it on once a function of the same name as one of the interface is registered as well. -/
theorem Guest.system_switch_sample :
    (∃ after, Performs
      (Sandbox.switch true ⟨Sample.engine, .default, Sample.registry Sample.descend⟩).guest
      [⟨.load (.described Sample.guest), .ok ()⟩, ⟨.instantiate, .ok ()⟩,
        ⟨.run (Program.invoke "relay" [.i32 0]), .error (.engine "stop")⟩] after) ∧
    ∃ text, Guest.instantiate ⟨Sandbox.switch true ⟨Sample.engine, .default,
        Sample.clashing⟩, .loaded Sample.guest⟩ =
      some (.error (.engine text), ⟨Sandbox.switch true ⟨Sample.engine, .default,
        Sample.clashing⟩, .closed⟩) := by
  constructor
  · -- With the interface off, each operation is evaluated.
    obtain ⟨alike, _, _⟩ := system_switch ⟨Sample.engine, .default, Sample.registry Sample.descend⟩
    obtain ⟨alike, _⟩ := alike (by decide)
      [⟨.load (.described Sample.guest), .ok ()⟩, ⟨.instantiate, .ok ()⟩,
        ⟨.run (Program.invoke "relay" [.i32 0]), .error (.engine "stop")⟩] (by
      simp only [List.mem_cons, List.not_mem_nil, or_false, forall_eq_or_imp, forall_eq]
      refine ⟨fun code read => ?_, trivial, trivial⟩
      cases read
      exact Sample.guest_systemFree)
    exact ⟨_, (alike _).mpr ⟨_, .more rfl (.more rfl (.more rfl .none)), rfl⟩⟩
  · obtain ⟨_, _, clashing⟩ := system_switch ⟨Sample.engine, .default, Sample.clashing⟩
    exact (clashing (by decide) Sample.guest Sample.guest_systemFree).2 rfl

/-- Switching the system interface on can cost a guest that imports nothing from it its instantiation. -/
theorem Guest.system_switch_noticed :
    let sandbox : Sandbox := ⟨Sample.engine, .default, Sample.clashing⟩
    Sample.guest.SystemFree ∧
    (∃ inst, Guest.instantiate ⟨sandbox.switch false, .loaded Sample.guest⟩ =
      some (.ok (), ⟨sandbox.switch false, .instantiated inst⟩)) ∧
    Guest.instantiate ⟨sandbox.switch true, .loaded Sample.guest⟩ =
      some (.error (.engine "fd_write is defined twice"), ⟨sandbox.switch true, .closed⟩) :=
  ⟨Sample.guest_systemFree, ⟨_, rfl⟩, rfl⟩

end GuestBoundary
