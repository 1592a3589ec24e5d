import GuestBoundary.Guest
import GuestBoundary.Proofs.Linking
import GuestBoundary.Proofs.Sample
import GuestBoundary.Proofs.Wasm.Validity

/-! The life of a guest: the operations on it, the stage that each of them needs, and where it leads. -/

namespace GuestBoundary

/-- How far a stage is along the life of a guest. -/
def Stage.rank : Stage → Nat
  | .unloaded => 0
  | .loaded => 1
  | .instantiated => 2
  | .closed => 3

/-- An operation on a guest, by the type of what it answers. -/
inductive Operation : Type → Type 1 where
  | load (source : Wasm.Source) : Operation Unit
  | instantiate : Operation Unit
  | close : Operation Unit
  /-- Look something up in the interface. -/
  | inspect {α : Type} (look : Wasm.Interface → α) : Operation α
  /-- Run a host program on the instance, whether it calls, copies or allocates. -/
  | run {α : Type} (program : Program α) : Operation α

namespace Operation

variable {α : Type}

/-- Perform an operation; it has no outcome if guest code runs beyond the engine's patience. -/
def apply (guest : Guest) : Operation α → Option (Except Fault α × Guest)
  | .load source => some (guest.load source)
  | .instantiate => guest.instantiate
  | .close => some (.ok (), guest.close)
  | .inspect look => some (guest.interface.map look, guest)
  | .run program => guest.run program

/-- The stage that an operation asks for. -/
def required? : Operation α → Option Stage
  | .load _ => some .unloaded
  | .instantiate => some .loaded
  | .close => none
  | .inspect _ => some .loaded
  | .run _ => some .instantiated

/-- Whether an operation is allowed at a stage. -/
def allowedAt : Operation α → Stage → Bool
  | .load _, .unloaded => true
  | .instantiate, .loaded => true
  | .close, _ => true
  -- The interface stays known while there is an instance.
  | .inspect _, .loaded => true
  | .inspect _, .instantiated => true
  | .run _, .instantiated => true
  | _, _ => false

/-- The stage that an operation leads to, by whether it succeeds. -/
def next : Operation α → Stage → (succeeds : Bool) → Stage
  | .load _, .unloaded, true => .loaded
  | .load _, .unloaded, false => .closed
  | .instantiate, .loaded, true => .instantiated
  | .instantiate, .loaded, false => .closed
  | .close, _, _ => .closed
  | _, stage, _ => stage

/-- No operation leads back. -/
theorem rank_le_next (operation : Operation α) (stage : Stage) (succeeds : Bool) :
    stage.rank ≤ (operation.next stage succeeds).rank := by
  -- The table is read off for every operation, stage and end.
  cases operation <;> cases stage <;> cases succeeds <;> simp [next, Stage.rank]

end Operation

namespace Guest

/-- A guest is loaded with what its source holds, or closed. -/
theorem load_unloaded (sandbox : Sandbox) (source : Wasm.Source) :
    Guest.load ⟨sandbox, .unloaded⟩ source =
      match source.read with
      | .ok code => (.ok (), ⟨sandbox, .loaded code⟩)
      | .error fault => (.error fault, ⟨sandbox, .closed⟩) := rfl

/-- A loaded guest gets the instance that is created for it, or is closed. -/
theorem instantiate_loaded (sandbox : Sandbox) (code : Wasm.Module) :
    Guest.instantiate ⟨sandbox, .loaded code⟩ =
      match Instance.create sandbox.engine sandbox.settings sandbox.registry code with
      | none => none
      | some (.ok inst) => some (.ok (), ⟨sandbox, .instantiated inst⟩)
      | some (.error fault) => some (.error fault, ⟨sandbox, .closed⟩) := rfl

/-- A program that runs on an instance leaves an instance, however it ends. -/
theorem run_instantiated {α : Type} (sandbox : Sandbox) (inst : Instance) (program : Program α) :
    Guest.run ⟨sandbox, .instantiated inst⟩ program =
      match inst.perform sandbox.engine program with
      | none => none
      | some (outcome, left) => some (outcome, ⟨sandbox, .instantiated left⟩) := rfl

/-- The interface is known exactly while the guest is loaded or instantiated. -/
theorem interface_ok_iff (guest : Guest) :
    (∃ shown, guest.interface = .ok shown) ↔ guest.stage = .loaded ∨ guest.stage = .instantiated := by
  rcases guest with ⟨sandbox, _ | code | inst | _⟩ <;>
    simp [interface, stage, Phase.stage]

/-- Without an instance there are no lines and no fuel. -/
theorem nothing_recorded {guest : Guest} (outside : guest.stage ≠ .instantiated) :
    guest.logs = #[] ∧ guest.fuel = none := by
  rcases guest with ⟨sandbox, _ | code | inst | _⟩
  case instantiated => exact absurd rfl outside
  all_goals exact ⟨rfl, rfl⟩

end Guest

namespace Operation

/-- What an operation comes to on a guest: every way in which it can end, with the guest it leaves. -/
inductive Leads : {α : Type} → Guest → Operation α → Except Fault α → Guest → Prop
  /-- At another stage than it needs, an operation does nothing. -/
  | refused {α : Type} {operation : Operation α} {guest : Guest} {required : Stage} :
      operation.allowedAt guest.stage = false → operation.required? = some required →
      Leads guest operation (.error (.invalidState required guest.stage)) guest
  | loads {sandbox : Sandbox} {source : Wasm.Source} {code : Wasm.Module} :
      source.read = .ok code →
      Leads ⟨sandbox, .unloaded⟩ (.load source) (.ok ()) ⟨sandbox, .loaded code⟩
  | unreadable {sandbox : Sandbox} {source : Wasm.Source} {fault : Fault} :
      source.read = .error fault →
      Leads ⟨sandbox, .unloaded⟩ (.load source) (.error fault) ⟨sandbox, .closed⟩
  | instantiates {sandbox : Sandbox} {code : Wasm.Module} {inst : Instance} :
      Instance.create sandbox.engine sandbox.settings sandbox.registry code = some (.ok inst) →
      Leads ⟨sandbox, .loaded code⟩ .instantiate (.ok ()) ⟨sandbox, .instantiated inst⟩
  | fails {sandbox : Sandbox} {code : Wasm.Module} {fault : Fault} :
      Instance.create sandbox.engine sandbox.settings sandbox.registry code = some (.error fault) →
      Leads ⟨sandbox, .loaded code⟩ .instantiate (.error fault) ⟨sandbox, .closed⟩
  | closes {guest : Guest} : Leads guest .close (.ok ()) guest.close
  | inspects {α : Type} {guest : Guest} {shown : Wasm.Interface} {look : Wasm.Interface → α} :
      guest.interface = .ok shown → Leads guest (.inspect look) (.ok (look shown)) guest
  /-- However a program ends, it leaves an instance. -/
  | runs {α : Type} {sandbox : Sandbox} {inst left : Instance} {program : Program α}
      {outcome : Except Fault α} :
      inst.perform sandbox.engine program = some (outcome, left) →
      Leads ⟨sandbox, .instantiated inst⟩ (.run program) outcome ⟨sandbox, .instantiated left⟩

variable {α : Type} {operation : Operation α} {outcome : Except Fault α} {guest after : Guest}

/-- An operation that is not allowed at the guest's stage names the stage that it needs and the one
that it found, and the guest stays as it is, with all that it owns. -/
theorem apply_refused (operation : Operation α)
    (refused : operation.allowedAt guest.stage = false) :
    ∃ required, operation.required? = some required ∧
      operation.apply guest = some (.error (.invalidState required guest.stage), guest) := by
  -- Each operation looks at the phase first, and does nothing at any other.
  rcases guest with ⟨sandbox, _ | code | inst | _⟩
  all_goals
    cases operation
    all_goals first
      | exact ⟨_, rfl, rfl⟩
      | cases refused

/-- Whatever an operation comes to is one of these. -/
theorem apply_leads (applied : operation.apply guest = some (outcome, after)) :
    operation.Leads guest outcome after := by
  by_cases allowed : operation.allowedAt guest.stage = true
  · -- The phases at which an operation is allowed are taken one by one.
    obtain ⟨sandbox, phase⟩ := guest
    cases operation with
    | load source =>
      cases phase with
      | unloaded =>
        rw [apply, Guest.load_unloaded] at applied
        split at applied
        · rename_i code read
          cases applied
          exact .loads read
        · rename_i fault unread
          cases applied
          exact .unreadable unread
      | _ => cases allowed
    | instantiate =>
      cases phase with
      | loaded code =>
        rw [apply, Guest.instantiate_loaded] at applied
        split at applied
        · cases applied
        · rename_i inst created
          cases applied
          exact .instantiates created
        · rename_i fault failed
          cases applied
          exact .fails failed
      | _ => cases allowed
    | close =>
      -- Closing always succeeds.
      cases applied
      exact .closes
    | inspect look =>
      cases phase with
      | loaded code | instantiated inst =>
        cases applied
        exact .inspects rfl
      | _ => cases allowed
    | run program =>
      cases phase with
      | instantiated inst =>
        rw [apply, Guest.run_instantiated] at applied
        split at applied
        · cases applied
        · rename_i performed
          cases applied
          exact .runs performed
      | _ => cases allowed
  · -- At any other phase there is nothing but the refusal.
    have refused : operation.allowedAt guest.stage = false := by simpa using allowed
    obtain ⟨_, required, unchanged⟩ := operation.apply_refused refused
    rw [unchanged] at applied
    cases applied
    exact .refused refused required

/-- Where an operation is refused, the table leaves the stage. -/
theorem next_refused {stage : Stage} (refused : operation.allowedAt stage = false)
    (succeeds : Bool) : operation.next stage succeeds = stage := by
  -- The two tables name the same stages.
  cases operation <;> cases stage <;> first | rfl | cases refused

/-- Each operation leads where the table says, and leaves the guest in its sandbox. -/
theorem apply_stage (applied : operation.apply guest = some (outcome, after)) :
    after.stage = operation.next guest.stage outcome.isOk ∧ after.sandbox = guest.sandbox := by
  -- A refusal stands for many entries of the table, and every other end is one of its entries.
  cases apply_leads applied with
  | refused refused _ => exact ⟨(next_refused refused _).symm, rfl⟩
  | _ => exact ⟨rfl, rfl⟩

/-- Every operation leaves a closed guest as it is. -/
theorem apply_closed (closed : guest.stage = .closed)
    (applied : operation.apply guest = some (outcome, after)) : after = guest := by
  -- Closing it again changes nothing, and everything else is refused or only looks.
  cases apply_leads applied with
  | refused | inspects => rfl
  | closes =>
    obtain ⟨sandbox, phase⟩ := guest
    cases phase with
    | closed => rfl
    | _ => cases closed
  | _ => cases closed

end Operation

/-- An operation that was performed, with what it came to. -/
structure Performed where
  {α : Type}
  operation : Operation α
  outcome : Except Fault α

/-- The stage that a performed operation has led to. -/
def Performed.next (performed : Performed) (stage : Stage) : Stage :=
  performed.operation.next stage performed.outcome.isOk

/-- Operations performed on a guest one after another, and the guest as they leave it. -/
inductive Performs : Guest → List Performed → Guest → Prop
  | none {guest : Guest} : Performs guest [] guest
  | more {α : Type} {operation : Operation α} {outcome : Except Fault α} {history : List Performed}
      {guest middle after : Guest} :
      operation.apply guest = some (outcome, middle) → Performs middle history after →
      Performs guest (⟨operation, outcome⟩ :: history) after

namespace Performs

variable {guest after : Guest} {history : List Performed}

/-- What every operation keeps, any number of them keep. -/
theorem keeps (holds : Guest → Prop)
    (step : ∀ {α : Type} {operation : Operation α} {outcome : Except Fault α} {guest after : Guest},
      operation.apply guest = some (outcome, after) → holds guest → holds after)
    (performs : Performs guest history after) (before : holds guest) : holds after := by
  -- By induction on the history, from the first operation on.
  induction performs with
  | none => exact before
  | more applied _ ih => exact ih (step applied before)

/-- Each operation of a history was performed on what those before it had left. -/
theorem part {first second : List Performed} {performed : Performed}
    (performs : Performs guest (first ++ performed :: second) after) :
    ∃ middle left, Performs guest first middle ∧
      performed.operation.apply middle = some (performed.outcome, left) ∧
      Performs left second after := by
  -- By induction on the operations before it.
  induction first generalizing guest with
  | nil =>
    cases performs with
    | more applied rest => exact ⟨guest, _, .none, applied, rest⟩
  | cons earlier first ih =>
    cases performs with
    | more applied rest =>
      obtain ⟨middle, left, before, there, later⟩ := ih rest
      exact ⟨middle, left, .more applied before, there, later⟩

/-- The stage is what the table makes of the history, and the sandbox stays the same. -/
theorem stage_eq (performs : Performs guest history after) :
    after.stage = history.foldl (fun stage performed => performed.next stage) guest.stage ∧
      after.sandbox = guest.sandbox := by
  induction performs with
  | none => exact ⟨rfl, rfl⟩
  | more applied _ ih =>
    obtain ⟨led, kept⟩ := Operation.apply_stage applied
    rw [List.foldl_cons, ih.1, ih.2, led, kept]
    exact ⟨rfl, rfl⟩

/-- Nothing changes the sandbox of a guest, so that its phase is all there is to know. -/
theorem eq_of_phase {sandbox : Sandbox} {phase : Phase}
    (performs : Performs sandbox.guest history guest) (holds : guest.phase = phase) :
    guest = ⟨sandbox, phase⟩ := by
  obtain ⟨own, reached⟩ := guest
  cases performs.stage_eq.2
  cases holds
  rfl

/-- No history leads back. -/
theorem rank_le (performs : Performs guest history after) : guest.stage.rank ≤ after.stage.rank := by
  -- Each operation leads on or stays, and so do all of them.
  refine performs.keeps (fun reached => guest.stage.rank ≤ reached.stage.rank) ?_ (Nat.le_refl _)
  intro α operation outcome reached left applied before
  rw [(Operation.apply_stage applied).1]
  exact Nat.le_trans before (operation.rank_le_next _ _)

/-- A closed guest stays as it is. -/
theorem closed_eq (performs : Performs guest history after) (closed : guest.stage = .closed) :
    after = guest := by
  -- Each operation finds the guest closed, and leaves it as it is.
  refine performs.keeps (fun reached => reached = guest) ?_ rfl
  rintro α operation outcome reached left applied rfl
  exact Operation.apply_closed closed applied

end Performs

/-- What a guest holds has been checked: its module has no defect, and its instance is linked against
what its sandbox offers. -/
def Guest.Sound (guest : Guest) : Prop :=
  match guest.phase with
  | .loaded code => code.defect? = none
  | .instantiated inst =>
    inst.linked.guest.defect? = none ∧
      Linked.link guest.sandbox.settings guest.sandbox.registry inst.linked.guest = .ok inst.linked
  | _ => True

/-- An instance that is created is linked, and nothing that runs changes what it is linked to. -/
theorem Instance.create_ok {engine : Engine} {settings : Settings} {registry : Registry}
    {code : Wasm.Module} {inst : Instance}
    (created : Instance.create engine settings registry code = some (.ok inst)) :
    Linked.link settings registry code = .ok inst.linked := by
  -- Once the module is linked, the segments and the start function decide.
  unfold Instance.create at created
  split at created
  · cases created
  · rename_i linked links
    split at created
    · cases created
    · cases created
    · cases created
      exact links

/-- An instance that is created starts with what instantiation has left. -/
theorem Instance.create_begun {engine : Engine} {settings : Settings} {registry : Registry}
    {code : Wasm.Module} {inst : Instance}
    (created : Instance.create engine settings registry code = some (.ok inst)) :
    begin engine inst.linked (initialStore settings inst.linked) = some (.ok (), inst.store) := by
  -- Of all ways in which creation ends, only a successful start leaves an instance.
  unfold create at created
  split at created
  · cases created
  · rename_i linked links
    simp only [Run.surface] at created
    cases begun : begin engine linked (initialStore settings linked) with
    | none =>
      rw [begun] at created
      cases created
    | some ended =>
      obtain ⟨failure | ⟨⟩, store⟩ := ended
      · rw [begun] at created
        cases created
      · rw [begun] at created
        cases created
        exact begun

/-- A host program runs on the instance's store alone. -/
theorem Instance.perform_linked {α : Type} {engine : Engine} {inst left : Instance}
    {program : Program α} {outcome : Except Fault α}
    (performed : inst.perform engine program = some (outcome, left)) : left.linked = inst.linked := by
  unfold Instance.perform at performed
  split at performed
  · cases performed
  · cases performed
    rfl

/-- A host program leaves the store that it leaves in the instance's own context. -/
theorem Instance.perform_store {α : Type} {engine : Engine} {inst left : Instance}
    {program : Program α} {outcome : Except Fault α}
    (performed : inst.perform engine program = some (outcome, left)) :
    (context engine inst.linked).perform program inst.store = some (outcome, left.store) := by
  unfold Instance.perform at performed
  split at performed
  · cases performed
  · rename_i ran
    cases performed
    exact ran

/-- Every operation leaves a guest with what has been checked. -/
theorem Operation.apply_sound {α : Type} {operation : Operation α} {outcome : Except Fault α}
    {guest after : Guest} (applied : operation.apply guest = some (outcome, after))
    (sound : guest.Sound) : after.Sound := by
  -- A module is checked as it is loaded, and linked as it is instantiated.
  cases apply_leads applied with
  | refused | inspects => exact sound
  | loads read => exact (Wasm.Source.read_ok_iff.mp read).2
  | unreadable | fails | closes => trivial
  | instantiates created =>
    -- The instance runs the very module that was linked, which had been checked before.
    have links := Instance.create_ok created
    obtain rfl := (Linked.link_ok_iff.mp links).2.2.2.1
    exact ⟨sound, links⟩
  | runs performed =>
    -- What has run can only have changed the store.
    have same := Instance.perform_linked performed
    exact ⟨same ▸ sound.1, same ▸ sound.2⟩

/-- A guest that a sandbox has made holds only what has been checked, whatever was done with it. -/
theorem Performs.sound {sandbox : Sandbox} {history : List Performed} {guest : Guest}
    (performs : Performs sandbox.guest history guest) : guest.Sound :=
  performs.keeps Guest.Sound Operation.apply_sound trivial

namespace Guest

/--
A guest only moves forward through its stages, and exactly as the table of its operations says.

Whatever was performed on it, its stage is the one that the table makes of the history, which never leads
back, and a closed guest is not changed any more. Where it then stands, each operation leads on as the
table says, and one that is not allowed there names the stage that it needs and the one that it found,
and leaves the guest with its module and its store as they were. A source that holds a valid module is
loaded, and any other closes the guest as invalid. The interface is known exactly from loading to closing,
and there are no lines and no fuel without an instance.
-/
theorem lifecycle {guest after : Guest} {history : List Performed}
    (performs : Performs guest history after) :
    after.stage = history.foldl (fun stage performed => performed.next stage) guest.stage ∧
    guest.stage.rank ≤ after.stage.rank ∧
    (guest.stage = .closed → after = guest) ∧
    (∀ {α : Type} (operation : Operation α) outcome left,
      operation.apply after = some (outcome, left) →
        left.stage = operation.next after.stage outcome.isOk) ∧
    (∀ {α : Type} (operation : Operation α), operation.allowedAt after.stage = false →
      ∃ required, operation.required? = some required ∧
        operation.apply after = some (.error (.invalidState required after.stage), after)) ∧
    (∀ source, after.stage = .unloaded →
      (∃ code, source.read = .ok code ∧
        after.load source = (.ok (), { after with phase := .loaded code })) ∨
      ∃ why, source.read = .error (.invalidModule why) ∧
        after.load source = (.error (.invalidModule why), after.close)) ∧
    ((∃ shown, after.interface = .ok shown) ↔
      after.stage = .loaded ∨ after.stage = .instantiated) ∧
    (after.stage ≠ .instantiated → after.logs = #[] ∧ after.fuel = none) := by
  refine ⟨performs.stage_eq.1, performs.rank_le, performs.closed_eq,
    fun operation outcome left applied => (Operation.apply_stage applied).1,
    fun operation refused => operation.apply_refused refused, fun source before => ?_,
    after.interface_ok_iff, nothing_recorded⟩
  -- A load that is not refused ends as its source can be read or not.
  obtain ⟨sandbox, phase⟩ := after
  cases phase with
  | unloaded =>
    rw [load_unloaded]
    cases read : source.read with
    | ok code => exact .inl ⟨code, rfl, rfl⟩
    | error fault =>
      obtain ⟨why, rfl⟩ := Wasm.Source.read_error read
      exact .inr ⟨why, rfl, rfl⟩
  | _ => cases before

/-- A call that a host function fails leaves the guest instantiated; calls before that and an
instantiation after the end are refused. -/
theorem lifecycle_sample :
    ∃ after, Performs
      (Sandbox.mk Sample.engine .default (Sample.registry Sample.descend)).guest
      [⟨.run (Program.invoke "relay" [.i32 0]), .error (.invalidState .instantiated .unloaded)⟩,
        ⟨.load (.described Sample.guest), .ok ()⟩, ⟨.instantiate, .ok ()⟩,
        ⟨.run (Program.invoke "relay" [.i32 0]), .error (.engine "stop")⟩, ⟨.close, .ok ()⟩,
        ⟨.instantiate, .error (.invalidState .loaded .closed)⟩] after ∧
      after.stage = .closed ∧ after.logs = #[] ∧ after.fuel = none := by
  -- Each operation is evaluated on the guest that the one before it left.
  refine Exists.imp (fun after performs => ⟨performs, ?_⟩)
    ⟨_, .more rfl (.more rfl (.more rfl (.more rfl (.more rfl (.more rfl .none)))))⟩
  obtain ⟨stage, _, _, _, _, _, _, ended⟩ := lifecycle performs
  exact ⟨stage, ended (by rw [stage]; exact Stage.noConfusion)⟩

end Guest

end GuestBoundary
