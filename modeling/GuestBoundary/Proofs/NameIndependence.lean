import GuestBoundary.Proofs.RenamedPrograms

/-! Whole runs of a guest under new names: with the standard capabilities, the protocol knows no names but
those of the conventions. -/

namespace GuestBoundary

namespace Linked

variable {names : Renaming} {linked : Linked} {patience depth : Nat}

/-- What guest code calls is found as before, and its runs match if calls do. -/
theorem surroundings_match
    (calls : ∀ id arguments, (linked.call patience depth .guest id arguments).Matches
      (Failure.Renamed names) ((linked.rename names).call patience depth .guest id arguments)) :
    (linked.surroundings patience depth).Match (Failure.Renamed names)
      ((linked.rename names).surroundings patience depth) where
  call id frame := by
    refine Wasm.callFunction_matches Failure.Renamed.own ?_ frame
    -- Code calls by identifiers, which are not renamed.
    have defined : (linked.rename names).guest.function? id = linked.guest.function? id := rfl
    simp only [surroundings, callable?, lookup_rename, defined]
    cases linked.hosts.lookup id with
    | some host => exact .some ⟨rfl, calls id⟩
    | none =>
      cases linked.guest.function? id with
      | none => exact .none
      | some function =>
        cases known : function.type.signature? with
        | none => simp [known]
        | some signature => simpa [known] using calls id
  maxPages := rfl
  patience := rfl

/-- Calls match under new names if the host functions do the same, at every depth. -/
theorem call_renamed
    (hosts : ∀ {id host}, linked.hosts.lookup id = some host → ∀ arguments,
      Program.Renamed names Eq (host.run arguments) ((host.rename names).run arguments))
    (depth : Nat) (caller : Caller) (id : String) (arguments : List Value) :
    (linked.call patience depth caller id arguments).Matches (Failure.Renamed names)
      ((linked.rename names).call patience depth caller id arguments) := by
  -- Whatever a call runs can only make calls of a smaller depth.
  induction depth generalizing caller id arguments with
  | zero => exact Wasm.trap_matches Failure.Renamed.own _
  | succ depth ih =>
    have found : (linked.rename names).hosts.lookup id = _ := linked.lookup_rename id
    cases bound : linked.hosts.lookup id with
    | some host =>
      rw [bound] at found
      rw [call_host bound, call_host found]
      exact Run.carry_matches (hosts bound arguments _ _ ⟨rfl, rfl, rfl, ih .host⟩)
    | none =>
      rw [bound] at found
      cases defined : linked.guest.function? id with
      | none =>
        rw [call_missing bound defined, call_missing found defined]
        exact Wasm.trap_matches Failure.Renamed.own _
      | some function =>
        rw [call_function bound defined, call_function found defined]
        exact Wasm.Function.run_matches Failure.Renamed.own (surroundings_match (ih .guest)) _ _

end Linked

/-- A sandbox under new names. -/
def Sandbox.rename (names : Renaming) (sandbox : Sandbox) : Sandbox where
  engine := sandbox.engine
  settings := sandbox.settings.rename names
  registry := sandbox.registry.rename names

/-- Sandboxes whose guests have the standard capabilities and nothing else. -/
structure Sandbox.Standard (sandbox : Sandbox) : Prop where
  off : sandbox.settings.wasi = false
  standard : ∀ host ∈ sandbox.registry.functions, Capability.Standard host

/-- An instance under new names has the same store. -/
def Instance.rename (names : Renaming) (inst : Instance) : Instance where
  linked := inst.linked.rename names
  store := inst.store

namespace Instance

variable {names : Renaming} {sandbox : Sandbox} {engine : Engine}

/-- Whatever a guest has been linked to under a standard sandbox does the same under new names. -/
theorem calls_renamed (standard : sandbox.Standard) {code : Wasm.Module} {linked : Linked}
    (links : Linked.link sandbox.settings sandbox.registry code = .ok linked) (patience depth : Nat)
    (caller : Caller) (id : String) (arguments : List Value) :
    (linked.call patience depth caller id arguments).Matches (Failure.Renamed names)
      ((linked.rename names).call patience depth caller id arguments) := by
  -- Without the system interface, every import is bound to a capability.
  refine Linked.call_renamed (fun bound arguments => ?_) depth caller id arguments
  rcases Linked.link_host_mem links bound with own | ⟨on, _⟩
  · exact HostFunction.renamed_run ((standard.standard _ own).renamed_body arguments)
  · rw [standard.off] at on
    cases on

/-- An instance begins under new names as before. -/
theorem begin_renamed {linked : Linked}
    (calls : ∀ id, (linked.call engine.patience engine.depth .guest id []).Matches
      (Failure.Renamed names) ((linked.rename names).call engine.patience engine.depth .guest id [])) :
    (begin engine linked).Matches (Failure.Renamed names) (begin engine (linked.rename names)) := by
  -- Segments and the start function have no names to the outside.
  have starts : (linked.rename names).guest.start = linked.guest.start := rfl
  unfold begin
  refine Run.matches_bind (Wasm.segments_matches Failure.Renamed.own _) fun _ => ?_
  rw [starts]
  cases linked.guest.start with
  | none => exact Run.matches_pure _
  | some id => exact Run.matches_map (calls id) _

/-- A guest is instantiated under new names as before. -/
theorem create_renamed (standard : sandbox.Standard) (code : Wasm.Module) :
    Option.Rel (Outcome.Renamed names (·.rename names = ·))
      (create engine sandbox.settings sandbox.registry code)
      (create engine (sandbox.settings.rename names) (sandbox.registry.rename names)
        (code.rename names)) := by
  -- Both are linked, or neither is; then both start from the same store.
  have linking : Outcome.Renamed names (·.rename names = ·)
      (Linked.link sandbox.settings sandbox.registry code) _ :=
    Linked.link_rename standard.off
  unfold create
  cases links : Linked.link sandbox.settings sandbox.registry code with
  | error fault =>
    rw [links] at linking
    generalize Linked.link _ _ (code.rename names) = other at linking
    cases linking with
    | error same => exact .some (.error same)
  | ok linked =>
    rw [links] at linking
    generalize Linked.link _ _ (code.rename names) = other at linking
    cases linking with
    | ok same =>
      cases same
      have begins : (begin engine linked).Matches (Failure.Renamed names)
          (begin engine (linked.rename names)) :=
        begin_renamed fun id => calls_renamed standard links _ _ .guest id []
      have begun := begins.surface (initialStore sandbox.settings linked)
      have stores : initialStore (sandbox.settings.rename names) (linked.rename names) =
          initialStore sandbox.settings linked := rfl
      dsimp only
      rw [stores]
      revert begun
      generalize (begin engine linked).surface _ = one
      generalize (begin engine (linked.rename names)).surface _ = two
      rintro (_ | ⟨⟨⟩, ⟨⟩⟩ | ⟨same, _⟩)
      · exact .none
      · exact .some (.ok rfl)
      · exact .some (.error same)

/-- A host program does the same on an instance under new names. -/
theorem perform_renamed {α : Type} {inst : Instance} {program other : Program α}
    (calls : ∀ id arguments, (inst.linked.call engine.patience engine.depth .host id arguments).Matches
      (Failure.Renamed names)
      ((inst.linked.rename names).call engine.patience engine.depth .host id arguments))
    (same : Program.Renamed names Eq program other) :
    Ends (Fault.Renamed names) Eq (·.rename names = ·) (inst.perform engine program)
      ((inst.rename names).perform engine other) := by
  -- Both contexts see everything, and their calls match.
  have ends := same (context engine inst.linked) (context engine (inst.linked.rename names))
    ⟨rfl, rfl, rfl, calls⟩ inst.store
  unfold perform rename
  dsimp only
  revert ends
  generalize (context engine inst.linked).perform program inst.store = one
  generalize (context engine (inst.linked.rename names)).perform other inst.store = two
  rintro (_ | ⟨⟨⟩, ⟨⟩⟩ | ⟨same, ⟨⟩⟩)
  · exact .endless
  · exact .value rfl rfl
  · exact .failure same rfl

end Instance

/-- A phase under new names. -/
def Phase.rename (names : Renaming) : Phase → Phase
  | .loaded code => .loaded (code.rename names)
  | .instantiated inst => .instantiated (inst.rename names)
  | phase => phase

/-- A guest under new names. -/
def Guest.rename (names : Renaming) (guest : Guest) : Guest where
  sandbox := guest.sandbox.rename names
  phase := guest.phase.rename names

/-- The store of a guest's instance. -/
def Guest.store? (guest : Guest) : Option Store :=
  match guest.phase with
  | .instantiated inst => some inst.store
  | _ => none

/-- What a host does with a guest by the protocol, by what that gives. -/
inductive GuestOperation : Type → Type where
  | load (source : Wasm.Source) : GuestOperation Unit
  | instantiate : GuestOperation Unit
  | close : GuestOperation Unit
  | hasExport (name : String) : GuestOperation Bool
  | call (name : String) (arguments : List Value) : GuestOperation (List Value)
  | callReturningBytes (name : String) (arguments : List Value) (form : ResultForm) :
      GuestOperation (List UInt8)
  | callWithBytes (name : String) (bytes : List UInt8) (form : ResultForm) : GuestOperation (List UInt8)
  | callWithText (name text : String) (form : ResultForm) : GuestOperation String
  | allocate (length : UInt32) : GuestOperation Buffer
  | copyIn (bytes : List UInt8) : GuestOperation Buffer
  | release (buffer : Buffer) : GuestOperation Unit
  | writeOutSlots (bytes : List UInt8) (pointerSlot lengthSlot : UInt32) : GuestOperation Buffer
  | size : GuestOperation Nat
  | read (offset length : UInt32) : GuestOperation (List UInt8)
  | write (offset : UInt32) (bytes : List UInt8) : GuestOperation Unit

namespace GuestOperation

variable {α : Type} {names : Renaming}

/-- An operation as it is performed. -/
def operation : GuestOperation α → Operation α
  | load source => .load source
  | instantiate => .instantiate
  | close => .close
  | hasExport name => .run (Program.hasExport name)
  | call name arguments => .run (Program.invoke name arguments)
  | callReturningBytes name arguments form => .run (Program.callReturningBytes name arguments form)
  | callWithBytes name bytes form => .run (Program.callWithBytes name bytes form)
  | callWithText name text form => .run (Program.callWithText name text form)
  | allocate length => .run (Program.allocate length)
  | copyIn bytes => .run (Program.copyIn bytes)
  | release buffer => .run (Program.release buffer)
  | writeOutSlots bytes pointerSlot lengthSlot =>
    .run (Program.writeOutSlots bytes pointerSlot lengthSlot)
  | size => .run (View.resolve >>= View.size)
  | read offset length => .run (View.resolve >>= (·.read offset length))
  | write offset bytes => .run (View.resolve >>= (·.write offset bytes))

/-- An operation on a guest under new names: the exports that it is given have theirs. -/
def rename (names : Renaming) : GuestOperation α → GuestOperation α
  | load source => load (source.rename names)
  | hasExport name => hasExport (names.exported name)
  | call name arguments => call (names.exported name) arguments
  | callReturningBytes name arguments form =>
    callReturningBytes (names.exported name) arguments form
  | callWithBytes name bytes form => callWithBytes (names.exported name) bytes form
  | callWithText name text form => callWithText (names.exported name) text form
  | operation => operation

end GuestOperation

namespace Guest

variable {names : Renaming} {guest : Guest}

/-- A renaming leaves the stage of a guest. -/
@[simp] theorem stage_rename : (guest.rename names).stage = guest.stage := by
  obtain ⟨sandbox, phase⟩ := guest
  cases phase <;> rfl

/-- A renaming leaves the store of a guest. -/
@[simp] theorem store?_rename : (guest.rename names).store? = guest.store? := by
  obtain ⟨sandbox, phase⟩ := guest
  cases phase <;> rfl

/-- A source is loaded under new names as before. -/
theorem load_renamed (source : Wasm.Source) :
    Ends (Fault.Renamed names) Eq (·.rename names = ·) (some (guest.load source))
      (some ((guest.rename names).load (source.rename names))) := by
  -- At every other stage, the stage alone decides.
  obtain ⟨sandbox, phase⟩ := guest
  cases phase with
  | unloaded =>
    have read : Outcome.Renamed names _ source.read _ := source.read_rename
    change Ends _ _ _ (some (Guest.load ⟨sandbox, .unloaded⟩ source))
      (some (Guest.load ⟨sandbox.rename names, .unloaded⟩ (source.rename names)))
    rw [load_unloaded, load_unloaded]
    revert read
    generalize source.read = one
    generalize (source.rename names).read = two
    rintro (⟨⟨⟩⟩ | same)
    · exact .value rfl rfl
    · exact .failure same rfl
  | _ => exact .failure (.nameless trivial) rfl

/-- A guest of a standard sandbox is instantiated under new names as before. -/
theorem instantiate_renamed (standard : guest.sandbox.Standard) :
    Ends (Fault.Renamed names) Eq (·.rename names = ·) guest.instantiate
      (guest.rename names).instantiate := by
  obtain ⟨sandbox, phase⟩ := guest
  cases phase with
  | loaded code =>
    have created : Option.Rel (Outcome.Renamed names (·.rename names = ·))
        (Instance.create sandbox.engine sandbox.settings sandbox.registry code)
        (Instance.create (sandbox.rename names).engine (sandbox.rename names).settings
          (sandbox.rename names).registry (code.rename names)) :=
      Instance.create_renamed standard code
    change Ends _ _ _ (Guest.instantiate ⟨sandbox, .loaded code⟩)
      (Guest.instantiate ⟨sandbox.rename names, .loaded (code.rename names)⟩)
    rw [instantiate_loaded, instantiate_loaded]
    revert created
    generalize Instance.create _ _ _ code = one
    generalize Instance.create _ _ _ (code.rename names) = two
    rintro (⟨⟨⟨⟩⟩ | same⟩ | _)
    · exact .value rfl rfl
    · exact .failure same rfl
    · exact .endless
  | _ => exact .failure (.nameless trivial) rfl

/-- A host program does the same on a guest of a standard sandbox under new names. -/
theorem run_renamed (standard : guest.sandbox.Standard) (sound : guest.Sound) {α : Type}
    {program other : Program α} (same : Program.Renamed names Eq program other) :
    Ends (Fault.Renamed names) Eq (·.rename names = ·) (guest.run program)
      ((guest.rename names).run other) := by
  obtain ⟨sandbox, phase⟩ := guest
  cases phase with
  | instantiated inst =>
    -- What a guest has been linked to is standard, as its sandbox is.
    have ends : Ends (Fault.Renamed names) Eq (·.rename names = ·)
        (inst.perform sandbox.engine program)
        ((inst.rename names).perform (sandbox.rename names).engine other) :=
      Instance.perform_renamed (Instance.calls_renamed standard sound.2 _ _ .host) same
    change Ends _ _ _ (Guest.run ⟨sandbox, .instantiated inst⟩ program)
      (Guest.run ⟨sandbox.rename names, .instantiated (inst.rename names)⟩ other)
    rw [run_instantiated, run_instantiated]
    revert ends
    generalize inst.perform _ program = one
    generalize (inst.rename names).perform _ other = two
    rintro (_ | ⟨⟨⟩, ⟨⟩⟩ | ⟨same, ⟨⟩⟩)
    · exact .endless
    · exact .value rfl rfl
    · exact .failure same rfl
  | _ => exact .failure (.nameless trivial) rfl

end Guest

/-- An operation comes to the same under new names, and leaves the same guest. -/
theorem GuestOperation.apply_renamed {α : Type} {names : Renaming} {guest : Guest}
    (standard : guest.sandbox.Standard) (sound : guest.Sound) (operation : GuestOperation α) :
    Ends (Fault.Renamed names) Eq (·.rename names = ·) (operation.operation.apply guest)
      ((operation.rename names).operation.apply (guest.rename names)) := by
  -- Except for the life of the guest itself, every operation runs a program.
  cases operation with
  | load source => exact Guest.load_renamed source
  | instantiate => exact Guest.instantiate_renamed standard
  | close => exact .value rfl rfl
  | hasExport name => exact Guest.run_renamed standard sound (Program.renamed_hasExport name)
  | call name arguments => exact Guest.run_renamed standard sound (Program.renamed_invoke name _)
  | callReturningBytes name arguments form =>
    exact Guest.run_renamed standard sound (Program.renamed_callReturningBytes name _ _)
  | callWithBytes name bytes form =>
    exact Guest.run_renamed standard sound (Program.renamed_callWithBytes name _ _)
  | callWithText name text form =>
    exact Guest.run_renamed standard sound (Program.renamed_callWithText name _ _)
  | allocate length => exact Guest.run_renamed standard sound (Program.renamed_allocate length)
  | copyIn bytes => exact Guest.run_renamed standard sound (Program.renamed_copyIn bytes)
  | release buffer => exact Guest.run_renamed standard sound (Program.renamed_release buffer)
  | writeOutSlots bytes pointerSlot lengthSlot =>
    exact Guest.run_renamed standard sound (Program.renamed_writeOutSlots bytes _ _)
  | size =>
    exact Guest.run_renamed standard sound
      (View.renamed_bind_resolve fun view => View.renamed_size view)
  | read offset length =>
    exact Guest.run_renamed standard sound
      (View.renamed_bind_resolve fun view => View.renamed_read view offset length)
  | write offset bytes =>
    exact Guest.run_renamed standard sound
      (View.renamed_bind_resolve fun view => View.renamed_write view offset bytes)

/-- Perform operations one after another; there is no end if one of them has none. -/
def Guest.runAll (guest : Guest) : List (Sigma GuestOperation) → Option (List Performed × Guest)
  | [] => some ([], guest)
  | ⟨_, operation⟩ :: rest =>
    match operation.operation.apply guest with
    | none => none
    | some (outcome, after) =>
      match after.runAll rest with
      | none => none
      | some (history, last) => some (⟨operation.operation, outcome⟩ :: history, last)

/-- The second operation is the first one under new names, and so is what it came to. -/
inductive Performed.Renamed (names : Renaming) : Performed → Performed → Prop
  | intro {α : Type} (operation : GuestOperation α) {first second : Except Fault α} :
      Outcome.Renamed names Eq first second →
      Renamed names ⟨operation.operation, first⟩ ⟨(operation.rename names).operation, second⟩

/-- The kind of the fault that an operation came to. -/
def Performed.kind? (performed : Performed) : Option String :=
  match performed.outcome with
  | .ok _ => none
  | .error fault => some fault.kind

theorem Performed.Renamed.kind?_eq {names : Renaming} {first second : Performed}
    (renamed : Performed.Renamed names first second) : second.kind? = first.kind? := by
  obtain ⟨operation, same⟩ := renamed
  cases same with
  | ok _ => rfl
  | error same => exact congrArg some same.kind_eq

/-- What has been performed under new names has failed as often, with faults of the same kinds. -/
theorem Performed.map_kind?_eq {names : Renaming} {first second : List Performed}
    (renamed : List.Forall₂ (Performed.Renamed names) first second) :
    second.map Performed.kind? = first.map Performed.kind? := by
  induction renamed with
  | nil => rfl
  | cons same _ ih => rw [List.map_cons, List.map_cons, same.kind?_eq, ih]

/-- A run of operations comes to the same under new names, operation by operation. -/
theorem Guest.runAll_renamed (names : Renaming) {guest : Guest} (standard : guest.sandbox.Standard)
    (sound : guest.Sound) (operations : List (Sigma GuestOperation)) :
    Option.Rel
      (fun one two => List.Forall₂ (Performed.Renamed names) one.1 two.1 ∧
        one.2.rename names = two.2)
      (guest.runAll operations)
      ((guest.rename names).runAll (operations.map fun order => ⟨order.1, order.2.rename names⟩)) := by
  -- Each operation leaves a sound guest in its sandbox, and the others start from there.
  induction operations generalizing guest with
  | nil => exact .some ⟨.nil, rfl⟩
  | cons first rest ih =>
    obtain ⟨α, operation⟩ := first
    have ends : Ends (Fault.Renamed names) Eq _ (operation.operation.apply guest) _ :=
      operation.apply_renamed standard sound
    simp only [List.map_cons, runAll]
    cases applied : operation.operation.apply guest with
    | none =>
      rw [applied] at ends
      generalize Operation.apply (guest.rename names) _ = other at ends
      cases ends with
      | endless => exact .none
    | some ended =>
      obtain ⟨outcome, after⟩ := ended
      have kept := (Operation.apply_stage applied).2
      have rests := ih (kept ▸ standard) (Operation.apply_sound applied sound)
      rw [applied] at ends
      obtain ⟨second, _, moved, same, rfl⟩ := ends.exists_renamed
      rw [moved]
      dsimp only
      revert rests
      generalize after.runAll rest = one
      generalize (after.rename names).runAll _ = two
      rintro (⟨histories, last⟩ | _)
      · exact .some ⟨.cons (.intro operation same) histories, last⟩
      · exact .none

namespace Sandbox

/-- A sandbox with the standard capabilities can always be made. -/
theorem standard_eq (engine : Engine) (settings : Settings) :
    Sandbox.standard engine settings =
      .ok ⟨engine, settings, Capability.registry settings.conventions.space⟩ := by
  have registered : Registry.empty.registerAll (Capability.standard settings.conventions.space) =
      (Capability.registry settings.conventions.space, .ok ()) :=
    Registry.registerAll_eq rfl
  rw [Sandbox.standard, registered]

end Sandbox

namespace Guest

/--
The protocol depends on names only through the conventions.

For every renaming of exports and of namespaces that keeps different names different, and every guest,
engine and settings without the system interface: where the module, the conventions and the exports that
operations are given all have their new names, a run of operations on a guest with the standard
capabilities has an end exactly if the run under the old names does. Operation by operation it then comes
to the same: the same values, or a fault of the same kind that is the same under new names. In the end the
guest is the same under new names, at the same stage and with the same store, which holds its memory, its
fuel and its log.
-/
theorem name_independence (names : Renaming) (engine : Engine) {settings : Settings}
    (off : settings.wasi = false) (operations : List (Sigma GuestOperation)) :
    ∃ sandbox other,
      Sandbox.standard engine settings = .ok sandbox ∧
      Sandbox.standard engine (settings.rename names) = .ok other ∧
      Option.Rel
        (fun one two =>
          List.Forall₂ (Performed.Renamed names) one.1 two.1 ∧
          two.1.map Performed.kind? = one.1.map Performed.kind? ∧
          two.2 = one.2.rename names ∧ two.2.stage = one.2.stage ∧ two.2.store? = one.2.store?)
        (sandbox.guest.runAll operations)
        (other.guest.runAll (operations.map fun order => ⟨order.1, order.2.rename names⟩)) := by
  let sandbox : Sandbox := ⟨engine, settings, Capability.registry settings.conventions.space⟩
  have standard : sandbox.Standard :=
    ⟨off, Capability.standard_of_mem⟩
  have sound : sandbox.guest.Sound := trivial
  have ran := runAll_renamed names standard sound operations
  -- The standard capabilities under a new namespace are the standard capabilities of that namespace.
  refine ⟨sandbox, sandbox.rename names, Sandbox.standard_eq _ _, Sandbox.standard_eq _ _, ?_⟩
  change Option.Rel _ (sandbox.guest.runAll operations) ((sandbox.guest.rename names).runAll _)
  revert ran
  generalize sandbox.guest.runAll operations = one
  generalize (sandbox.guest.rename names).runAll _ = two
  rintro (⟨histories, same⟩ | _)
  · exact .some ⟨histories, Performed.map_kind?_eq histories, same.symm,
      by rw [← same, stage_rename], by rw [← same, store?_rename]⟩
  · exact .none

end Guest

namespace Sample

/-- An export that has the host log the text of a span, and answers the span. -/
def report : Wasm.Function where
  id := "report"
  type := ⟨[.number .i32, .number .i32], [.number .i64]⟩
  locals := []
  body := [.localGet 0, .localGet 1, .call "visit"] ++ echo.body

/-- The guest with a capability for its host function. -/
def reporter : Wasm.Module :=
  { guest with
    imports := [⟨"env", "host_log_string", .function "visit" ⟨[.number .i32, .number .i32], []⟩⟩]
    functions := [allocator, deallocator, report]
    exports := [⟨"memory", .memory 0⟩, ⟨"malloc", .function "bump"⟩, ⟨"free", .function "wipe"⟩,
      ⟨"report", .function "report"⟩] }

/-- Every name with another one before it. -/
def marked : Renaming where
  exported name := "app." ++ name
  space name := "host." ++ name
  exported_injective _ _ same := (String.append_right_inj _).mp same
  space_injective _ _ same := (String.append_right_inj _).mp same

/-- The guest is handed a text, and is then called without its arguments. -/
def reporting : List (Sigma GuestOperation) :=
  [⟨_, .load (.described reporter)⟩, ⟨_, .instantiate⟩, ⟨_, .callWithText "report" "hi" .packed⟩,
    ⟨_, .call "report" []⟩]

end Sample

namespace Guest

/-- With every name marked, the text is logged and the arguments are missed as before. -/
theorem name_independence_marked :
    ∃ sandbox other one two,
      Sandbox.standard Sample.engine .default = .ok sandbox ∧
      Sandbox.standard Sample.engine (Settings.default.rename Sample.marked) = .ok other ∧
      sandbox.guest.runAll Sample.reporting = some one ∧
      other.guest.runAll
        (Sample.reporting.map fun order => ⟨order.1, order.2.rename Sample.marked⟩) = some two ∧
      two.1.map Performed.kind? = [none, none, none, some "ArityMismatch"] ∧
      two.2.store?.map (·.log.lines.toList) = some [⟨"host_log_string", "hi"⟩] := by
  obtain ⟨sandbox, other, made, remade, same⟩ :=
    name_independence Sample.marked Sample.engine (rfl : Settings.default.wasi = false)
      Sample.reporting
  have ran : ∃ one, sandbox.guest.runAll Sample.reporting = some one ∧
      one.1.map Performed.kind? = [none, none, none, some "ArityMismatch"] ∧
      one.2.store?.map (·.log.lines.toList) = some [⟨"host_log_string", "hi"⟩] := by
    cases (Sandbox.standard_eq _ _).symm.trans made
    exact ⟨_, rfl, rfl, rfl⟩
  obtain ⟨one, ran, kinds, lines⟩ := ran
  rw [ran] at same
  generalize rerun : other.guest.runAll _ = last at same
  obtain ⟨_, alike, _, _, store⟩ := same
  exact ⟨sandbox, other, one, _, made, remade, ran, rerun, alike.trans kinds, by rw [store, lines]⟩

end Guest

end GuestBoundary
