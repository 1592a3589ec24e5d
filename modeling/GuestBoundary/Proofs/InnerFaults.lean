import GuestBoundary.Capability
import GuestBoundary.Proofs.Arguments
import GuestBoundary.Proofs.Lifecycle
import GuestBoundary.Proofs.Memory

/-! Faults from inside a call: where guests only have the standard capabilities, nothing that happens
after a function is entered looks like a mistake of its caller. -/

namespace GuestBoundary

/-- The faults that a call can come to once its function is entered. -/
def Fault.Inner : Fault → Prop
  | .outOfBounds .. => True
  | .allocationFailed .. => True
  | .invalidModule _ => True
  | .guestTrapped _ => True
  | .fuelExhausted => True
  | _ => False

theorem Fault.Inner.kind_mem {fault : Fault} (inner : fault.Inner) :
    fault.kind ∈ ["OutOfBounds", "AllocationFailed", "InvalidModule", "GuestTrapped",
      "FuelExhausted"] := by
  cases fault <;> first | exact False.elim inner | simp [kind]

theorem Fault.Rejects.kind_mem {fault : Fault} (rejects : fault.Rejects) :
    fault.kind ∈ ["ExportNotFound", "ArityMismatch", "SignatureMismatch"] := by
  cases fault <;> first | exact False.elim rejects | simp [kind]

/-- The six standard capabilities, in any namespace, with any responder and any text. -/
inductive Capability.Standard : HostFunction → Prop
  | logString (space : String) : Standard (logString space)
  | logWord (space : String) : Standard (logWord space)
  | talkPlain (respond : String → String) (space : String) : Standard (talkPlain respond space)
  | getString (text space : String) : Standard (getString text space)
  | printString (space : String) : Standard (printString space)
  | talkStatus (respond : String → String) (space : String) : Standard (talkStatus respond space)

/-- The capabilities as they are by default are standard. -/
theorem Capability.standard_of_mem {space : String} :
    ∀ host ∈ Capability.standard space, Capability.Standard host := by
  simp only [standard, logging, withStatus, List.cons_append, List.nil_append, List.mem_cons,
    List.not_mem_nil, or_false]
  rintro host (rfl | rfl | rfl | rfl | rfl | rfl)
  · exact .logString space
  · exact .logWord space
  · exact .talkPlain _ space
  · exact .getString _ space
  · exact .printString space
  · exact .talkStatus _ space

/-- Allocations turn whatever an allocator comes to into faults from inside. -/
theorem Program.allocatorFault_inner (length : UInt32) (allocator : String) {fault : Fault}
    (holds : fault.Rejects ∨ fault.Inner) : (allocatorFault length allocator fault).Inner := by
  -- What turned the call down, and a trap, become a failed allocation; any other fault from inside is
  -- kept, and nothing else comes out of such a call.
  cases fault <;> first | trivial | exact holds.elim False.elim False.elim

/-- The faults that access to memory comes to are allowed, and that of bytes which are too many for one
allocation. -/
structure Fault.AllowsAccess (allowed : Fault → Prop) : Prop where
  outOfBounds : ∀ offset length size, allowed (.outOfBounds offset length size)
  memoryMissing : ∀ name, allowed (.invalidModule (.memoryMissing name))
  tooLarge : allowed (.allocationFailed 0xFFFFFFFF .tooLarge)

/-- Faults from inside include those of access to memory. -/
theorem Fault.AllowsAccess.inner : Fault.AllowsAccess Fault.Inner :=
  ⟨fun _ _ _ => trivial, fun _ => trivial, trivial⟩

section

variable {allowed : Fault → Prop} (access : Fault.AllowsAccess allowed) {fault : Fault}
include access

/-- A range that is refused is out of bounds. -/
theorem checkRange_fails {size : Nat} {offset length : UInt32}
    (failed : checkRange size offset length = .error fault) : allowed fault := by
  unfold checkRange at failed
  split at failed
  · cases failed
  · cases failed
    exact access.outOfBounds _ _ _

namespace Region

variable {region : Region} {offset : UInt32}

theorem read_fails {length : UInt32} (failed : region.read offset length = .error fault) :
    allowed fault := by
  cases checked : checkRange region.size offset length with
  | ok _ =>
    rw [read, checked] at failed
    cases failed
  | error refused =>
    rw [read, checked] at failed
    cases failed
    exact checkRange_fails access checked

theorem write_fails {bytes : List UInt8} (failed : region.write offset bytes = .error fault) :
    allowed fault := by
  unfold write at failed
  split at failed
  · cases checked : checkRange region.size offset (UInt32.ofNat bytes.length) with
    | ok _ =>
      rw [checked] at failed
      cases failed
    | error refused =>
      rw [checked] at failed
      cases failed
      exact checkRange_fails access checked
  · cases failed
    exact access.outOfBounds _ _ _

end Region

end

namespace Context

variable {α β : Type}

/-- A program of a context only fails with allowed faults. -/
def FailsWith (context : Context) (allowed : Fault → Prop) (program : Program α) : Prop :=
  ∀ store fault left, context.perform program store = some (.error fault, left) → allowed fault

/-- A program of a context only fails with faults from inside. -/
def FailsInside (context : Context) (program : Program α) : Prop :=
  ∀ store fault left, context.perform program store = some (.error fault, left) → fault.Inner

/-- The functions that a context calls only fail with faults from inside. -/
def CallsFailInside (context : Context) : Prop :=
  ∀ id arguments, (context.call id arguments).FailsAs fun failure => failure.fault.Inner

variable {context : Context}

section

variable {allowed : Fault → Prop}

theorem failsWith_done (value : α) : context.FailsWith allowed (.done value) := by
  -- A value is no fault.
  rintro store fault left ⟨⟩

theorem failsWith_fail {fault : Fault} (holds : allowed fault) :
    context.FailsWith allowed (.fail fault : Program α) := by
  rintro store raised left ⟨⟩
  exact holds

theorem failsWith_settle {outcome : Except Fault α}
    (holds : ∀ fault, outcome = .error fault → allowed fault) :
    context.FailsWith allowed (Program.settle outcome) := by
  intro store fault left failed
  rw [perform_settle] at failed
  cases failed
  exact holds fault rfl

/-- A sequence of programs fails as its parts do. -/
theorem failsWith_bind {program : Program α} {next : α → Program β}
    (first : context.FailsWith allowed program)
    (rest : ∀ value, context.FailsWith allowed (next value)) :
    context.FailsWith allowed (program >>= next) := by
  -- The second part only runs after the first one gave a value.
  intro store fault left failed
  rw [perform_bind] at failed
  split at failed
  · cases failed
  · exact rest _ _ _ _ failed
  · rename_i raised
    cases failed
    exact first _ _ _ raised

/-- What follows an attempt decides, from the faults that the attempt can come to. -/
theorem failsWith_attempt {known : Fault → Prop} {program : Program α}
    {next : Except Fault α → Program β} (first : context.FailsWith known program)
    (value : ∀ value, context.FailsWith allowed (next (.ok value)))
    (fails : ∀ fault, known fault → context.FailsWith allowed (next (.error fault))) :
    context.FailsWith allowed (program.attempt >>= next) := by
  -- An attempt itself never fails, so the failure is that of what follows.
  intro store fault left failed
  rw [perform_bind, perform_attempt] at failed
  cases attempted : context.perform program store with
  | none => simp [attempted] at failed
  | some ended =>
    obtain ⟨raised | given, middle⟩ := ended
    · rw [attempted] at failed
      exact fails raised (first store raised middle attempted) middle fault left failed
    · rw [attempted] at failed
      exact value given middle fault left failed

/-- Asking never fails by itself; what goes on with the reply may. -/
theorem failsWith_ask {request : Request} {resume : request.Reply → Program α}
    (rest : ∀ store reply left, context.answer request store = some (reply, left) →
      context.FailsWith allowed (resume reply)) :
    context.FailsWith allowed (.ask request resume) := by
  intro store fault left failed
  rw [perform] at failed
  split at failed
  · cases failed
  · rename_i reply middle answered
    exact rest _ _ _ answered middle fault left failed

theorem failsWith_log (message : String) : context.FailsWith allowed (Program.log message) :=
  failsWith_ask fun _ _ _ _ => failsWith_done _

theorem failsWith_size (view : View) : context.FailsWith allowed view.size :=
  failsWith_ask fun _ _ _ _ => failsWith_done _

/-- A host function fails as its work does if it then answers a fixed list of the declared types. -/
theorem failsWith_run {host : HostFunction} {arguments answer : List Value} {work : Program α}
    (body : host.body arguments = work >>= fun _ => pure answer)
    (accepted : host.signature.acceptsResults answer = true)
    (fails : context.FailsWith allowed work) :
    context.FailsWith allowed (host.run arguments) := by
  rw [HostFunction.run_answer body accepted]
  exact failsWith_bind fails fun _ => failsWith_done _

variable (access : Fault.AllowsAccess allowed)
include access

/-- A memory that the context does not show is missing. -/
theorem memory_fails {name : String} {store : Store} {fault : Fault}
    (failed : context.memory name store = .error fault) : allowed fault := by
  unfold memory at failed
  split at failed
  · cases failed
  · cases failed
    exact access.memoryMissing name

theorem failsWith_resolve : context.FailsWith allowed View.resolve := by
  refine failsWith_bind (failsWith_ask fun _ _ _ _ => failsWith_done _) fun conventions => ?_
  refine failsWith_ask fun _ size _ _ => ?_
  cases size with
  | none => exact failsWith_fail (access.memoryMissing _)
  | some size => exact failsWith_done _

theorem failsWith_read (view : View) (offset length : UInt32) :
    context.FailsWith allowed (view.read offset length) := by
  refine failsWith_ask fun store reply left answered => failsWith_settle fun fault same => ?_
  cases answered
  -- The memory is not shown, or the range does not lie inside it.
  cases shown : context.memory view.memory store with
  | error hidden =>
    rw [shown] at same
    cases same
    exact memory_fails access shown
  | ok region =>
    rw [shown] at same
    exact Region.read_fails access same

theorem failsWith_write (view : View) (offset : UInt32) (bytes : List UInt8) :
    context.FailsWith allowed (view.write offset bytes) := by
  refine failsWith_ask fun store reply left answered => failsWith_settle fun fault same => ?_
  -- The reply is the first failure: of finding the memory, or of writing inside it.
  cases shown : context.memory view.memory store with
  | error hidden =>
    simp only [answer, shown, Except.bind] at answered
    cases answered
    cases same
    exact memory_fails access shown
  | ok region =>
    cases written : region.write offset bytes with
    | ok memory =>
      simp only [answer, shown, Except.bind, written] at answered
      cases answered
      cases same
    | error refused =>
      simp only [answer, shown, Except.bind, written] at answered
      cases answered
      cases same
      exact Region.write_fails access written

theorem failsWith_readString (span : Span) : context.FailsWith allowed (Program.readString span) :=
  failsWith_bind (failsWith_bind (failsWith_resolve access) fun view =>
    failsWith_read access view _ _) fun _ => failsWith_done _

theorem failsWith_logText (span : Span) : context.FailsWith allowed (Capability.logText span) :=
  failsWith_bind (failsWith_readString access span) fun _ => failsWith_log _

/-- What follows the search for memory only matters where memory is seen. -/
theorem failsWith_resolve_bind {next : View → Program α}
    (rest : context.SeesMemory → ∀ view, context.FailsWith allowed (next view)) :
    context.FailsWith allowed (View.resolve >>= next) := by
  by_cases sees : context.SeesMemory
  · exact failsWith_bind (failsWith_resolve access) (rest sees)
  · intro store fault left failed
    rw [perform_bind, perform_resolve_blind sees] at failed
    cases failed
    exact access.memoryMissing _

variable (allocates : context.SeesMemory →
  ∀ length, context.FailsWith allowed (Program.allocate length))
include allocates

theorem failsWith_copyIn (bytes : List UInt8) :
    context.FailsWith allowed (Program.copyIn bytes) := by
  -- The memory is found, a buffer is allocated, and the bytes are written to it.
  unfold Program.copyIn
  split
  · refine failsWith_resolve_bind access fun sees view =>
      failsWith_bind (allocates sees _) fun buffer => ?_
    refine failsWith_attempt (failsWith_write access view _ _) (fun _ => failsWith_done _)
      fun fault holds => failsWith_bind ?_ fun _ => failsWith_fail holds
    -- Giving the buffer back may fail in any way, since its outcome is dropped.
    have any : context.FailsWith (fun _ => True) (Program.release buffer) := fun _ _ _ _ => trivial
    exact failsWith_attempt any (fun _ => failsWith_done _) fun _ _ => failsWith_done _
  · exact failsWith_fail access.tooLarge

theorem failsWith_writeOutSlots (bytes : List UInt8) (pointerSlot lengthSlot : UInt32) :
    context.FailsWith allowed (Program.writeOutSlots bytes pointerSlot lengthSlot) := by
  -- Both slots are checked before anything is allocated or written.
  refine failsWith_bind (failsWith_resolve access) fun view =>
    failsWith_bind (failsWith_size view) fun size =>
    failsWith_bind (failsWith_settle fun _ => checkRange_fails access) fun _ =>
    failsWith_bind (failsWith_settle fun _ => checkRange_fails access) fun _ => ?_
  split
  · exact failsWith_bind (failsWith_write access _ _ _) fun _ =>
      failsWith_bind (failsWith_write access _ _ _) fun _ => failsWith_done _
  · exact failsWith_bind (failsWith_copyIn access allocates bytes) fun _ =>
      failsWith_bind (failsWith_write access _ _ _) fun _ =>
        failsWith_bind (failsWith_write access _ _ _) fun _ => failsWith_done _

theorem failsWith_talk (respond : String → String) (span : Span)
    (pointerSlot lengthSlot : UInt32) :
    context.FailsWith allowed (Capability.talk respond span pointerSlot lengthSlot) :=
  failsWith_bind (failsWith_readString access span) fun _ =>
    failsWith_bind (failsWith_writeOutSlots access allocates _ _ _) fun _ => failsWith_done _

/-- Every standard capability fails as access to memory does, or as an allocation in its context, which
it only makes where memory is seen. -/
theorem failsWith_standard {host : HostFunction} (standard : Capability.Standard host)
    (arguments : List Value) : context.FailsWith allowed (host.run arguments) := by
  -- Each of them answers fixed values after its work.
  cases standard with
  | logString space => exact failsWith_run rfl rfl (failsWith_logText access _)
  | logWord space => exact failsWith_run rfl rfl (failsWith_log _)
  | talkPlain respond space => exact failsWith_run rfl rfl (failsWith_talk access allocates _ _ _ _)
  | getString text space =>
    exact failsWith_run rfl rfl (failsWith_writeOutSlots access allocates _ _ _)
  | printString space => exact failsWith_run rfl rfl (failsWith_logText access _)
  | talkStatus respond space => exact failsWith_run rfl rfl (failsWith_talk access allocates _ _ _ _)

end

/-- A call that fails is turned down by its checks, before anything has run, or it passes them and
fails inside. -/
theorem invoke_fault (calls : context.CallsFailInside) {name : String} {arguments : List Value}
    {store left : Store} {fault : Fault}
    (failed : context.invoke name arguments store = some (.error fault, left)) :
    (context.prepare name arguments = .error fault ∧ left = store) ∨
      ((∃ entered, context.prepare name arguments = .ok entered) ∧ fault.Inner) := by
  -- Nothing runs before the checks have passed.
  unfold invoke at failed
  split at failed
  · rename_i refused prepared
    cases failed
    exact .inl ⟨prepared, rfl⟩
  · rename_i id passed prepared
    simp only [Run.surface] at failed
    split at failed
    · cases failed
    · rename_i outcome stopped ran
      cases outcome with
      | ok values => cases failed
      | error failure =>
        cases failed
        exact .inr ⟨⟨_, prepared⟩, calls id passed _ _ _ ran⟩

theorem failsInside_allocated (length : UInt32) (values : List Value) :
    context.FailsInside (Program.allocated length values) := by
  -- Whatever an allocator answers, only a pointer into memory is no failure.
  unfold Program.allocated
  split
  · split
    · exact failsWith_fail trivial
    · refine failsWith_bind (failsWith_resolve .inner) fun view =>
        failsWith_bind (failsWith_size view) fun size => ?_
      split
      · exact failsWith_done _
      · exact failsWith_fail trivial
  · exact failsWith_fail trivial

/-- An allocation fails inside, even where its allocator could not be called at all. -/
theorem failsInside_allocate (calls : context.CallsFailInside) (length : UInt32) :
    context.FailsInside (Program.allocate length) := by
  unfold Program.allocate
  split
  · exact failsWith_fail trivial
  · refine failsWith_bind (failsWith_ask fun _ _ _ _ => failsWith_done _) fun conventions => ?_
    -- This is the one place where the mistakes of a caller become faults of an allocation.
    refine failsWith_attempt (fun store fault left failed => ?_)
      (fun values => failsInside_allocated length values)
      fun fault holds => failsWith_fail (Program.allocatorFault_inner _ _ holds)
    rw [perform_invoke] at failed
    exact (invoke_fault calls failed).imp (fun refused => prepare_rejects refused.1) And.right

/-- Every standard capability fails inside, wherever the calls of its context do. -/
theorem failsInside_standard (calls : context.CallsFailInside) {host : HostFunction}
    (standard : Capability.Standard host) (arguments : List Value) :
    context.FailsInside (host.run arguments) :=
  failsWith_standard .inner (fun _ => failsInside_allocate calls) standard arguments

end Context

/-- Where all host functions are standard capabilities, calls fail inside at any depth. -/
theorem Linked.call_failsInside {linked : Linked} {patience : Nat}
    (standard : ∀ {id host}, linked.hosts.lookup id = some host → Capability.Standard host)
    (depth : Nat) (caller : Caller) (id : String) (arguments : List Value) :
    (linked.call patience depth caller id arguments).FailsAs fun failure =>
      failure.fault.Inner := by
  -- Guest code traps or runs out of fuel, and hands on what its host functions raise.
  have own : Wasm.AllowsOwn fun failure => failure.fault.Inner := ⟨fun _ => trivial, trivial⟩
  refine call_failsAs own linked patience (fun bound context _ calls arguments => ?_) depth caller id
    arguments
  exact Context.failsInside_standard calls (standard bound) arguments

/--
Errors of a malformed call never come from inside the guest.

Where a guest only has the standard capabilities, a call that fails was either turned down by its own
checks, which leaves the guest as it was, or it entered its function. In that case the fault is one of
memory, of an allocation, of the module, of guest code or of its fuel, however deep the capabilities
re-entered the guest and whatever its allocator is like.
-/
theorem Guest.call_fault_origin {sandbox : Sandbox} (off : sandbox.settings.wasi = false)
    (standard : ∀ host ∈ sandbox.registry.functions, Capability.Standard host)
    {history : List Performed} {guest after : Guest} {inst : Instance}
    (performs : Performs sandbox.guest history guest)
    (instantiated : guest.phase = .instantiated inst) {name : String} {arguments : List Value}
    {fault : Fault}
    (failed : guest.run (Program.invoke name arguments) = some (.error fault, after)) :
    match (Instance.context sandbox.engine inst.linked).prepare name arguments with
    | .error refused =>
      fault = refused ∧ after = guest ∧
        fault.kind ∈ ["ExportNotFound", "ArityMismatch", "SignatureMismatch"]
    | .ok _ =>
      fault.kind ∈ ["OutOfBounds", "AllocationFailed", "InvalidModule", "GuestTrapped",
        "FuelExhausted"] := by
  obtain rfl := performs.eq_of_phase instantiated
  have links : Linked.link sandbox.settings sandbox.registry inst.linked.guest = .ok inst.linked :=
    performs.sound.2
  -- With the system interface off, every import is bound to a capability.
  have calls : (Instance.context sandbox.engine inst.linked).CallsFailInside := by
    refine Linked.call_failsInside (fun bound => ?_) sandbox.engine.depth .host
    rcases Linked.link_host_mem links bound with own | ⟨on, _⟩
    · exact standard _ own
    · rw [off] at on
      cases on
  rw [run_instantiated, Instance.perform, Context.perform_invoke] at failed
  cases invoked : (Instance.context sandbox.engine inst.linked).invoke name arguments inst.store with
  | none => simp [invoked] at failed
  | some ended =>
    obtain ⟨outcome, left⟩ := ended
    rw [invoked] at failed
    cases failed
    -- The call was turned down before anything ran, or it failed inside.
    rcases Context.invoke_fault calls invoked with ⟨prepared, rfl⟩ | ⟨⟨entered, prepared⟩, inner⟩
    · rw [prepared]
      exact ⟨rfl, rfl, (Context.prepare_rejects prepared).kind_mem⟩
    · rw [prepared]
      exact inner.kind_mem

/-- A guest that has a text delivered, with an allocator that takes one argument too many. -/
def Sample.fetcher : Wasm.Module where
  imports := [⟨"env", "host_get_string", .function "deliver" ⟨[.number .i32, .number .i32], []⟩⟩]
  memories := [⟨1, none⟩]
  tables := []
  globals := []
  functions :=
    [⟨"fetch", ⟨[], []⟩, [], [.const (.i32 8), .const (.i32 12), .call "deliver"]⟩,
      ⟨"take", ⟨[.number .i32, .number .i32], [.number .i32]⟩, [], [.localGet 0]⟩]
  exports := [⟨"memory", .memory 0⟩, ⟨"malloc", .function "take"⟩, ⟨"fetch", .function "fetch"⟩]
  segments := []
  start := none

/-- A sandbox with the standard capabilities. -/
def Sample.delivery : Sandbox := ⟨Sample.engine, .default, Capability.registry "env"⟩

/-- The guest, freshly instantiated. -/
def Sample.fetching : Instance :=
  let linked : Linked := ⟨fetcher,
    [("deliver", Capability.getString Capability.defaultText "env")], .default, 1, 256⟩
  ⟨linked, Instance.initialStore .default linked⟩

/-- What the allocator has against its one argument is an allocation that fails, while an argument too
many for the export itself is the caller's own mistake. -/
theorem Guest.call_fault_origin_fetcher :
    Performs Sample.delivery.guest
      [⟨.load (.described Sample.fetcher), .ok ()⟩, ⟨.instantiate, .ok ()⟩]
      ⟨Sample.delivery, .instantiated Sample.fetching⟩ ∧
    (∃ fault after, Guest.run ⟨Sample.delivery, .instantiated Sample.fetching⟩
        (Program.invoke "fetch" []) = some (.error fault, after) ∧
      fault = .allocationFailed 37
        (.failed "arity mismatch calling malloc: expected 2 arguments, got 1") ∧
      fault.kind ∈ ["OutOfBounds", "AllocationFailed", "InvalidModule", "GuestTrapped",
        "FuelExhausted"]) ∧
    ∃ fault after, Guest.run ⟨Sample.delivery, .instantiated Sample.fetching⟩
        (Program.invoke "fetch" [.i32 1]) = some (.error fault, after) ∧
      fault = .arityMismatch "fetch" 0 1 ∧ after = ⟨Sample.delivery, .instantiated Sample.fetching⟩ ∧
      fault.kind ∈ ["ExportNotFound", "ArityMismatch", "SignatureMismatch"] := by
  have standard : ∀ host ∈ Sample.delivery.registry.functions, Capability.Standard host :=
    Capability.standard_of_mem
  have performs : Performs Sample.delivery.guest
      [⟨.load (.described Sample.fetcher), .ok ()⟩, ⟨.instantiate, .ok ()⟩]
      ⟨Sample.delivery, .instantiated Sample.fetching⟩ := .more rfl (.more rfl .none)
  refine ⟨performs, ?_, ?_⟩
  · obtain ⟨after, failed⟩ : ∃ after, Guest.run ⟨Sample.delivery, .instantiated Sample.fetching⟩
        (Program.invoke "fetch" []) = some (.error (.allocationFailed 37
          (.failed "arity mismatch calling malloc: expected 2 arguments, got 1")), after) :=
      ⟨_, rfl⟩
    exact ⟨_, after, failed, rfl, Guest.call_fault_origin rfl standard performs rfl failed⟩
  · obtain ⟨after, failed⟩ : ∃ after, Guest.run ⟨Sample.delivery, .instantiated Sample.fetching⟩
        (Program.invoke "fetch" [.i32 1]) = some (.error (.arityMismatch "fetch" 0 1), after) :=
      ⟨_, rfl⟩
    obtain ⟨_, unchanged, kind⟩ := Guest.call_fault_origin rfl standard performs rfl failed
    exact ⟨_, after, failed, rfl, unchanged, kind⟩

end GuestBoundary
