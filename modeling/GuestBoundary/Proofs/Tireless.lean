import GuestBoundary.Proofs.InnerFaults
import GuestBoundary.Proofs.Wasm.Tireless

/-! Host programs that never say by themselves that fuel has run out. The operations of the protocol, the
standard capabilities and the system interface are all of this kind. -/

namespace GuestBoundary

variable {α β : Type}

/-- A reply that does not tell of exhausted fuel. -/
def Request.Tireless : (request : Request) → request.Reply → Prop
  | .invoke _ _, reply => reply ≠ .error .fuelExhausted
  | .read _ _ _, reply => reply ≠ .error .fuelExhausted
  | .write _ _ _, reply => reply ≠ .error .fuelExhausted
  | _, _ => True

/-- A program that does not end for want of fuel, as long as no reply tells of exhausted fuel. -/
def Program.Tireless : Program α → Prop
  | .done _ => True
  | .fail fault => fault ≠ .fuelExhausted
  | .ask request resume => ∀ reply, request.Tireless reply → (resume reply).Tireless

/-- Access to memory does not tell of exhausted fuel. -/
theorem Fault.AllowsAccess.unexhausted : Fault.AllowsAccess fun fault => fault ≠ .fuelExhausted :=
  ⟨nofun, nofun, nofun⟩

theorem checkRange_tireless (size : Nat) (offset length : UInt32) :
    checkRange size offset length ≠ .error .fuelExhausted :=
  fun failed => checkRange_fails .unexhausted failed rfl

namespace Region

theorem read_tireless (region : Region) (offset length : UInt32) :
    region.read offset length ≠ .error .fuelExhausted :=
  fun failed => read_fails .unexhausted failed rfl

theorem write_tireless (region : Region) (offset : UInt32) (bytes : List UInt8) :
    region.write offset bytes ≠ .error .fuelExhausted :=
  fun failed => write_fails .unexhausted failed rfl

end Region

namespace Program

theorem tireless_settle {outcome : Except Fault α} (spares : outcome ≠ .error .fuelExhausted) :
    (settle outcome).Tireless := by
  cases outcome with
  | ok value => trivial
  | error fault => exact fun same => spares (congrArg _ same)

/-- A sequence is tireless if its parts are. -/
theorem tireless_bind {program : Program α} {next : α → Program β} (first : program.Tireless)
    (rest : ∀ value, (next value).Tireless) : (program >>= next).Tireless := by
  -- The sequence asks what its first part asks, and then goes on as the rest does.
  induction program with
  | done value => exact rest value
  | fail fault => exact first
  | ask request resume ih => exact fun reply spares => ih reply (first reply spares)

/-- What goes on after an attempt only meets faults other than that of exhausted fuel. -/
theorem tireless_attempt {program : Program α} {next : Except Fault α → Program β}
    (first : program.Tireless) (rest : ∀ value, (next (.ok value)).Tireless)
    (fails : ∀ fault, fault ≠ .fuelExhausted → (next (.error fault)).Tireless) :
    (program.attempt >>= next).Tireless := by
  induction program with
  | done value => exact rest value
  | fail fault => exact fails fault first
  | ask request resume ih => exact fun reply spares => ih reply (first reply spares)

theorem tireless_conventions : conventions.Tireless := fun _ _ => trivial

theorem tireless_log (message : String) : (log message).Tireless := fun _ _ => trivial

theorem tireless_note (event : Event) : (note event).Tireless := fun _ _ => trivial

theorem tireless_hasExport (name : String) : (hasExport name).Tireless := fun _ _ => trivial

theorem tireless_invoke (name : String) (arguments : List Value) :
    (invoke name arguments).Tireless := fun _ => tireless_settle

theorem tireless_signature (name : String) : (signature name).Tireless := by
  intro type _
  dsimp only
  split
  · nofun
  · split
    · trivial
    · nofun

theorem tireless_resolve : View.resolve.Tireless := by
  refine tireless_bind tireless_conventions fun names size _ => ?_
  dsimp only
  split
  · trivial
  · nofun

theorem tireless_size (view : View) : view.size.Tireless := fun _ _ => trivial

theorem tireless_read (view : View) (offset length : UInt32) : (view.read offset length).Tireless :=
  fun _ => tireless_settle

theorem tireless_write (view : View) (offset : UInt32) (bytes : List UInt8) :
    (view.write offset bytes).Tireless := fun _ => tireless_settle

theorem tireless_readWord (view : View) (offset : UInt32) : (view.readWord offset).Tireless :=
  tireless_bind (tireless_read view offset 4) fun _ => trivial

theorem tireless_readBytes (span : Span) : (readBytes span).Tireless :=
  tireless_bind tireless_resolve fun view => tireless_read view _ _

theorem tireless_readString (span : Span) : (readString span).Tireless :=
  tireless_bind (tireless_readBytes span) fun _ => trivial

theorem tireless_allocated (length : UInt32) (values : List Value) :
    (allocated length values).Tireless := by
  -- Every answer of an allocator that is not accepted is a failed allocation.
  unfold allocated
  split
  · split
    · nofun
    · refine tireless_bind tireless_resolve fun view => tireless_bind (tireless_size view) fun size => ?_
      split
      · trivial
      · nofun
  · nofun

theorem tireless_allocate (length : UInt32) : (allocate length).Tireless := by
  unfold allocate
  split
  · nofun
  · refine tireless_bind tireless_conventions fun names =>
      tireless_attempt (tireless_invoke _ _) (fun values => tireless_allocated length values)
        fun fault spares => ?_
    -- The fault of the allocator is kept, or becomes one of the allocation.
    cases fault <;> first | exact absurd rfl spares | nofun

theorem tireless_release (buffer : Buffer) : (release buffer).Tireless := by
  have owned : buffer.checkRelease ≠ .error .fuelExhausted := by
    unfold Buffer.checkRelease
    split <;> nofun
  refine tireless_bind (tireless_settle owned) fun _ => tireless_bind tireless_conventions fun names => ?_
  split
  · trivial
  · refine tireless_bind (tireless_hasExport _) fun found => ?_
    split
    · refine tireless_bind (tireless_signature _) fun declared =>
        tireless_bind (tireless_settle ?_) fun arguments =>
          tireless_bind (tireless_invoke _ _) fun _ => trivial
      unfold deallocatorArguments
      split <;> nofun
    · trivial

theorem tireless_releaseAfterFailure (buffer : Buffer) : (releaseAfterFailure buffer).Tireless :=
  tireless_attempt (tireless_release buffer) (fun _ => trivial) fun _ _ => trivial

theorem tireless_copyIn (bytes : List UInt8) : (copyIn bytes).Tireless := by
  -- The fault of a write that fails comes through, whatever giving the buffer back comes to.
  unfold copyIn
  split
  · exact tireless_bind tireless_resolve fun view => tireless_bind (tireless_allocate _) fun buffer =>
      tireless_attempt (tireless_write view _ _) (fun _ => trivial) fun fault spares =>
        tireless_bind (tireless_releaseAfterFailure buffer) fun _ => spares
  · nofun

/-- A scope is tireless if its body is. -/
theorem tireless_withGuestBytes (bytes : List UInt8) {body : Buffer → Program α}
    (bodies : ∀ buffer, (body buffer).Tireless) : (withGuestBytes bytes body).Tireless := by
  unfold withGuestBytes
  split
  · exact bodies _
  · refine tireless_bind (tireless_copyIn bytes) fun buffer => tireless_bind (tireless_note _) fun _ =>
      tireless_attempt (bodies buffer) (fun value => ?_) fun fault spares => ?_
    · exact tireless_bind (tireless_note _) fun _ =>
        tireless_bind (tireless_release buffer) fun _ => trivial
    · exact tireless_bind (tireless_note _) fun _ =>
        tireless_bind (tireless_releaseAfterFailure buffer) fun _ => spares

theorem tireless_guestBuffer (span : Span) : (guestBuffer span).Tireless :=
  tireless_bind tireless_resolve fun view => tireless_bind (tireless_size view) fun _ =>
    tireless_bind (tireless_settle (checkRange_tireless _ _ _)) fun _ => trivial

theorem tireless_readResult (values : List Value) (form : ResultForm) :
    (readResult values form).Tireless := by
  have span : form.readSpan values ≠ .error .fuelExhausted := by
    unfold ResultForm.readSpan
    split <;> nofun
  exact tireless_bind (tireless_settle span) fun span =>
    tireless_bind (tireless_guestBuffer span) fun _ => tireless_readBytes _

theorem tireless_callReturningBytes (name : String) (arguments : List Value) (form : ResultForm) :
    (callReturningBytes name arguments form).Tireless :=
  tireless_bind (tireless_invoke name arguments) fun values => tireless_readResult values form

theorem tireless_callWithBytes (name : String) (bytes : List UInt8) (form : ResultForm) :
    (callWithBytes name bytes form).Tireless :=
  tireless_withGuestBytes bytes fun buffer =>
    tireless_callReturningBytes name buffer.span.pair form

theorem tireless_callWithText (name text : String) (form : ResultForm) :
    (callWithText name text form).Tireless :=
  tireless_bind (tireless_callWithBytes name _ form) fun _ => trivial

theorem tireless_writeOutSlots (bytes : List UInt8) (pointerSlot lengthSlot : UInt32) :
    (writeOutSlots bytes pointerSlot lengthSlot).Tireless := by
  refine tireless_bind tireless_resolve fun view => tireless_bind (tireless_size view) fun size =>
    tireless_bind (tireless_settle (checkRange_tireless _ _ _)) fun _ =>
      tireless_bind (tireless_settle (checkRange_tireless _ _ _)) fun _ => ?_
  -- Both ways write the two words, and one of them copies the bytes in before.
  split
  · exact tireless_bind (tireless_write view _ _) fun _ =>
      tireless_bind (tireless_write view _ _) fun _ => trivial
  · exact tireless_bind (tireless_copyIn bytes) fun buffer =>
      tireless_bind (tireless_write view _ _) fun _ =>
        tireless_bind (tireless_write view _ _) fun _ => trivial

end Program

/-- A host function whose program is tireless, whatever it is called with. -/
def HostFunction.Tireless (host : HostFunction) : Prop :=
  ∀ arguments, (host.body arguments).Tireless

/-- Checking its results does not make a host function tire. -/
theorem HostFunction.Tireless.run {host : HostFunction} (tireless : host.Tireless)
    (arguments : List Value) : (host.run arguments).Tireless := by
  refine Program.tireless_bind (tireless arguments) fun values => ?_
  split
  · trivial
  · nofun

namespace Capability

open Program

theorem tireless_logText (span : Span) : (logText span).Tireless :=
  tireless_bind (tireless_readString span) fun _ => tireless_log _

theorem tireless_talk (respond : String → String) (span : Span) (pointerSlot lengthSlot : UInt32) :
    (talk respond span pointerSlot lengthSlot).Tireless :=
  tireless_bind (tireless_readString span) fun _ =>
    tireless_bind (tireless_writeOutSlots _ _ _) fun _ => trivial

/-- The standard capabilities are tireless. -/
theorem Standard.tireless {host : HostFunction} (standard : Standard host) : host.Tireless := by
  intro arguments
  cases standard with
  | logString | printString => exact tireless_bind (tireless_logText _) fun _ => trivial
  | logWord => exact tireless_bind (tireless_log _) fun _ => trivial
  | talkPlain | talkStatus => exact tireless_bind (tireless_talk _ _ _ _) fun _ => trivial
  | getString => exact tireless_bind (tireless_writeOutSlots _ _ _) fun _ => trivial

end Capability

namespace SystemInterface

open Program

theorem tireless_checkAccess (size address count : Nat) (aligned : Bool) :
    (checkAccess size address count aligned).Tireless := by
  unfold checkAccess
  split
  · trivial
  · nofun

theorem tireless_firstFilled (size address count : Nat) :
    (firstFilled size address count).Tireless := by
  induction count generalizing address with
  | zero => trivial
  | succ count ih =>
    refine tireless_bind (tireless_checkAccess _ _ _ _) fun _ =>
      tireless_bind (tireless_readWord _ _) fun _ => tireless_bind (tireless_readWord _ _) fun _ => ?_
    split
    · exact ih _
    · trivial

/-- The functions of the system interface are tireless. -/
theorem functions_tireless : ∀ host ∈ functions, host.Tireless := by
  intro host member arguments
  simp only [functions, List.mem_cons, List.not_mem_nil, or_false] at member
  rcases member with rfl | rfl
  · unfold descriptorWrite
    dsimp only
    split
    · intro size _
      dsimp only
      split
      · rintro ⟨⟩
      · split
        · exact tireless_bind (tireless_firstFilled _ _ _) fun span =>
            tireless_bind (tireless_checkAccess _ _ _ _) fun _ =>
              tireless_bind (tireless_checkAccess _ _ _ _) fun _ =>
                tireless_bind (tireless_write memory _ _) fun _ => trivial
        · trivial
    · rintro ⟨⟩
  · rintro ⟨⟩

end SystemInterface

namespace Context

variable {context : Context} {store left : Store}

/-- Everything that a context can call is tireless. -/
def CallsTireless (context : Context) : Prop := ∀ id arguments, (context.call id arguments).Tireless

/-- Without a meter no reply tells of exhausted fuel, if no call of the context does. -/
theorem answer_tireless (calls : context.CallsTireless) {request : Request} {reply : request.Reply}
    (unmetered : store.fuel = none) (answered : context.answer request store = some (reply, left)) :
    left.fuel = none ∧ request.Tireless reply := by
  have shown (name : String) : context.memory name store ≠ .error .fuelExhausted :=
    fun hidden => memory_fails .unexhausted hidden rfl
  cases request with
  | invoke name arguments =>
    simp only [answer, invoke] at answered
    split at answered
    · -- A call that is turned down is a mistake of its caller.
      rename_i fault prepared
      cases answered
      refine ⟨unmetered, ?_⟩
      rintro ⟨⟩
      exact prepare_rejects prepared
    · rename_i id passed prepared
      simp only [Run.surface] at answered
      split at answered
      · cases answered
      · rename_i outcome stopped ran
        cases answered
        obtain ⟨stays, spares⟩ := calls id passed store outcome left unmetered ran
        refine ⟨stays, ?_⟩
        cases outcome with
        | ok values => rintro ⟨⟩
        | error failure => exact fun same => spares failure rfl (Except.error.inj same)
  | read name offset length =>
    cases answered
    refine ⟨unmetered, ?_⟩
    cases seen : context.memory name store with
    | error fault =>
      rintro ⟨⟩
      exact shown name seen
    | ok region => exact region.read_tireless offset length
  | write name offset bytes =>
    simp only [answer] at answered
    split at answered
    · cases answered
      exact ⟨unmetered, by rintro ⟨⟩⟩
    · rename_i fault refused
      cases answered
      refine ⟨unmetered, ?_⟩
      rintro ⟨⟩
      cases seen : context.memory name store with
      | error hidden =>
        rw [seen] at refused
        cases refused
        exact shown name seen
      | ok region =>
        rw [seen] at refused
        exact region.write_tireless offset bytes refused
  | _ =>
    cases answered
    exact ⟨unmetered, trivial⟩

/-- A tireless program does not end for want of fuel where there is no meter, if no call does. -/
theorem perform_tireless (calls : context.CallsTireless) {program : Program α}
    (tireless : program.Tireless) {outcome : Except Fault α} (unmetered : store.fuel = none)
    (performed : context.perform program store = some (outcome, left)) :
    left.fuel = none ∧ outcome ≠ .error .fuelExhausted := by
  -- Each reply comes with a store without a meter, and tells of no exhausted fuel.
  induction program generalizing store with
  | done value =>
    cases performed
    exact ⟨unmetered, nofun⟩
  | fail fault =>
    cases performed
    exact ⟨unmetered, fun same => tireless (Except.error.inj same)⟩
  | ask request resume ih =>
    simp only [perform] at performed
    split at performed
    · cases performed
    · rename_i reply middle answered
      obtain ⟨stays, spares⟩ := answer_tireless calls unmetered answered
      exact ih reply (tireless reply spares) stays performed

end Context

/-- Where all host functions are tireless, calls are, at any depth. -/
theorem Linked.call_tireless {linked : Linked}
    (hosts : ∀ {id host}, linked.hosts.lookup id = some host → host.Tireless) (patience depth : Nat)
    (caller : Caller) (id : String) (arguments : List Value) :
    (linked.call patience depth caller id arguments).Tireless := by
  -- Whatever a call runs can only make calls of a smaller depth.
  induction depth generalizing caller id arguments with
  | zero => exact Run.tireless_trap _
  | succ depth ih =>
    cases bound : linked.hosts.lookup id with
    | some host =>
      intro store outcome left unmetered ran
      rw [call_host bound, Run.carry] at ran
      split at ran
      · cases ran
      · rename_i ending stopped performed
        cases ran
        have calls : (linked.context patience depth (caller == .guest) host.name).CallsTireless :=
          ih .host
        obtain ⟨stays, spares⟩ :=
          Context.perform_tireless calls ((hosts bound).run arguments) unmetered performed
        refine ⟨stays, fun failure raised => ?_⟩
        -- What a host function ends with is carried as it is.
        cases ending with
        | ok values => cases raised
        | error fault =>
          cases raised
          exact fun same => spares (congrArg _ same)
    | none =>
      cases defined : linked.guest.function? id with
      | none =>
        rw [call_missing bound defined]
        exact Run.tireless_trap _
      | some function =>
        rw [call_function bound defined]
        refine Wasm.Function.run_tireless ?_ function arguments
        intro name callable found operands
        rw [callable?_run found]
        exact ih .guest name operands

/-- Where all host functions are tireless, so is instantiation. -/
theorem Instance.begin_tireless {linked : Linked}
    (hosts : ∀ {id host}, linked.hosts.lookup id = some host → host.Tireless) (engine : Engine) :
    (begin engine linked).Tireless := by
  refine Run.tireless_bind (Wasm.segments_tireless _) fun _ => ?_
  split
  · exact Run.tireless_pure _
  · exact Run.tireless_bind (Linked.call_tireless hosts _ _ _ _ _) fun _ => Run.tireless_pure _

end GuestBoundary
