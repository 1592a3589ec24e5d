import GuestBoundary.Capability
import GuestBoundary.Proofs.Scopes
import GuestBoundary.Script

/-! Host functions and their notes: in scripts, in the standard capabilities and in the system interface
all of them come from scopes, so every guest that links against these has host functions that do. -/

namespace GuestBoundary

variable {α : Type}

namespace Program

theorem unnoted_log (message : String) : (log message).Unnoted := ⟨nofun, fun _ => trivial⟩

theorem unnoted_readWord (view : View) (offset : UInt32) : (view.readWord offset).Unnoted :=
  unnoted_bind (asks_read _ _ _).unnoted fun _ => trivial

/-- A call with bytes has the notes of its one scope. -/
theorem scoped_callWithBytes (name : String) (bytes : List UInt8) (form : ResultForm) :
    (callWithBytes name bytes form).Scoped :=
  .scope bytes fun _ => .plain (asks_bind (asks_invoke _ _) fun _ => asks_readResult _ _).unnoted

end Program

namespace Script

open Program

theorem unnoted_describeState : describeState.Unnoted := by
  have name : self.Unnoted := ⟨nofun, fun _ => trivial⟩
  have lines : logged.Unnoted := ⟨nofun, fun _ => trivial⟩
  exact unnoted_bind name fun _ => unnoted_bind lines fun _ =>
    Asks.unnoted (asks_bind asks_resolve fun view => asks_bind (asks_size view) fun _ => trivial)

/-- An operation on registers has the notes of what it performs. -/
theorem scoped_perform {program : Program α} (built : program.Scoped) (registers : Registers)
    (store : α → Registers) : (registers.perform program store).Scoped := by
  refine .bind (.attempt built) fun outcome => .plain ?_
  split <;> trivial

/-- An operation without notes has none on registers either. -/
theorem unnoted_perform {program : Program α} (unnoted : program.Unnoted) (registers : Registers)
    (store : α → Registers) : (registers.perform program store).Scoped :=
  scoped_perform (.plain unnoted) registers store

mutual

/-- The notes of a step come from the scopes that it opens and from the steps inside it. -/
theorem scoped_run (step : Step) (registers : Registers) : (step.run registers).Scoped := by
  cases step with
  | invoke name arguments => exact unnoted_perform (unnoted_invoke _ _) registers _
  | readString pointer length => exact unnoted_perform (asks_readString _).unnoted registers _
  | readBytes pointer length => exact unnoted_perform (asks_readBytes _).unnoted registers _
  | log text => exact unnoted_perform (unnoted_log _) registers _
  | logText => exact unnoted_perform (unnoted_log _) registers _
  | logHex => exact unnoted_perform (unnoted_log _) registers _
  | logLast => exact unnoted_perform (unnoted_log _) registers _
  | logState =>
    exact unnoted_perform (unnoted_bind unnoted_describeState unnoted_log) registers _
  | logBuffer => exact unnoted_perform (unnoted_log _) registers _
  | hasExport name => exact unnoted_perform (Asks.unnoted (asks_hasExport trivial)) registers _
  | respond pointerSlot lengthSlot =>
    exact unnoted_perform (asks_writeOutSlots _ _ _).unnoted registers _
  | allocate length => exact unnoted_perform (asks_allocate _).unnoted registers _
  | copyIn => exact unnoted_perform (asks_copyIn _).unnoted registers _
  | release => exact unnoted_perform (asks_release _).unnoted registers _
  | write offset =>
    exact unnoted_perform (asks_bind asks_resolve fun _ => asks_write _ _ _).unnoted registers _
  | writeWord offset word =>
    exact unnoted_perform (asks_bind asks_resolve fun _ => asks_write _ _ _).unnoted registers _
  | readWord offset =>
    exact unnoted_perform (unnoted_bind asks_resolve.unnoted fun _ => unnoted_readWord _ _) registers _
  | withBytes body =>
    refine scoped_perform (.scope _ fun buffer => ?_) registers _
    exact .bind (scoped_runAll body _) fun _ => .plain (unnoted_settle _)
  | callWithBytes name form => exact scoped_perform (scoped_callWithBytes _ _ _) registers _
  | readResult form => exact unnoted_perform (asks_readResult _ _).unnoted registers _
  | attempt body =>
    refine .bind (scoped_runAll body registers) fun (after, ending) => .plain ?_
    dsimp only
    split
    · trivial
    · exact unnoted_bind (unnoted_log _) fun _ => trivial
  | _ => exact .plain trivial

/-- The notes of steps come from scopes. -/
theorem scoped_runAll (steps : List Step) (registers : Registers) :
    (runAll steps registers).Scoped := by
  cases steps with
  | nil => exact .plain trivial
  | cons step rest =>
    refine .bind (scoped_run step registers) fun ended => ?_
    split
    · exact scoped_runAll rest _
    · exact .plain trivial

end

/-- The notes of every scripted host function come from scopes. -/
theorem scoped_body (steps : List Step) (arguments : List Value) :
    (body steps arguments).Scoped :=
  .bind (scoped_runAll steps _) fun _ => .plain (unnoted_settle _)

end Script

namespace Capability

open Program

theorem unnoted_logText (span : Span) : (logText span).Unnoted :=
  unnoted_bind (asks_readString span).unnoted fun _ => unnoted_log _

/-- A conversation only asks about the instance. -/
theorem asks_talk (respond : String → String) (span : Span) (pointerSlot lengthSlot : UInt32) :
    (talk respond span pointerSlot lengthSlot).Asks Request.OfInstance :=
  asks_bind (asks_readString span) fun _ =>
    asks_bind (asks_writeOutSlots _ pointerSlot lengthSlot) fun _ => trivial

theorem unnoted_talk (respond : String → String) (span : Span) (pointerSlot lengthSlot : UInt32) :
    (talk respond span pointerSlot lengthSlot).Unnoted :=
  (asks_talk respond span pointerSlot lengthSlot).unnoted

/-- The standard capabilities open no scopes. -/
theorem standard_scoped (space : String) : ∀ host ∈ standard space, host.Scoped := by
  intro host member arguments
  simp only [standard, logging, withStatus, List.cons_append, List.nil_append, List.mem_cons,
    List.not_mem_nil, or_false] at member
  rcases member with rfl | rfl | rfl | rfl | rfl | rfl
  · exact .plain (unnoted_bind (unnoted_logText _) fun _ => trivial)
  · exact .plain (unnoted_bind (unnoted_log _) fun _ => trivial)
  · exact .plain (unnoted_bind (unnoted_talk _ _ _ _) fun _ => trivial)
  · exact .plain (Asks.unnoted (asks_bind (asks_writeOutSlots _ _ _) fun _ => trivial))
  · exact .plain (unnoted_bind (unnoted_logText _) fun _ => trivial)
  · exact .plain (unnoted_bind (unnoted_talk _ _ _ _) fun _ => trivial)

end Capability

namespace SystemInterface

open Program

theorem unnoted_checkAccess (size address count : Nat) (aligned : Bool) :
    (checkAccess size address count aligned).Unnoted := by
  unfold checkAccess
  split <;> trivial

theorem unnoted_firstFilled (size address count : Nat) :
    (firstFilled size address count).Unnoted := by
  induction count generalizing address with
  | zero => trivial
  | succ count ih =>
    refine unnoted_bind (unnoted_checkAccess _ _ _ _) fun _ =>
      unnoted_bind (unnoted_readWord _ _) fun _ => unnoted_bind (unnoted_readWord _ _) fun _ => ?_
    split
    · exact ih _
    · trivial

/-- The functions of the system interface open no scopes. -/
theorem functions_scoped : ∀ host ∈ functions, host.Scoped := by
  intro host member arguments
  simp only [functions, List.mem_cons, List.not_mem_nil, or_false] at member
  rcases member with rfl | rfl
  · refine .plain ?_
    unfold descriptorWrite
    dsimp only
    split
    · refine ⟨by rintro _ ⟨⟩, fun size => ?_⟩
      dsimp only
      split
      · trivial
      · split
        · exact unnoted_bind (unnoted_firstFilled _ _ _) fun _ =>
            unnoted_bind (unnoted_checkAccess _ _ _ _) fun _ =>
              unnoted_bind (unnoted_checkAccess _ _ _ _) fun _ =>
                unnoted_bind (asks_write _ _ _).unnoted fun _ => trivial
        · trivial
    · trivial
  · exact .plain trivial

end SystemInterface

/-- A guest that links against functions whose notes come from scopes has no others. -/
theorem Linked.link_hostsScoped {settings : Settings} {registry : Registry} {guest : Wasm.Module}
    {linked : Linked} (links : Linked.link settings registry guest = .ok linked)
    (registered : ∀ host ∈ registry.functions, host.Scoped) : linked.HostsScoped := by
  -- What the guest imports is registered or shared by all guests.
  intro id host found
  rcases link_host_mem links found with own | ⟨_, shared⟩
  · exact registered host own
  · exact SystemInterface.functions_scoped host shared

end GuestBoundary
