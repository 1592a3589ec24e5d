import GuestBoundary.Proofs.Dispatch

/-! How allocations end: the allocator is code of the guest that can do anything, and each of its ends is
told apart, with the store that is left. -/

namespace GuestBoundary

open Program

/-- The faults that an allocation takes for its allocator's failure, and reports by their message. -/
def Fault.Breaks : Fault → Prop
  | .guestTrapped _ => True
  | .arityMismatch .. => True
  | .signatureMismatch .. => True
  | _ => False

namespace Context

/-- The name under which the guest is to export its allocator. -/
abbrev allocator (context : Context) : String := context.linked.conventions.allocExport

/-- The allocator's own run for a length: a function over integers alone that takes one of them is called
with the length in the type of its parameter. Where the run has no end, neither has the call. -/
def AllocatorRuns (context : Context) (length : UInt32) (store : Store)
    (ended : Option (Except Failure (List Value) × Store)) : Prop :=
  ∃ (id : String) (param : NumType) (results : List NumType),
    context.Shows context.allocator id (Signature.funcType ⟨[param], results⟩) ∧
    context.call id [(Value.i32 length).coerce param] store = ended

/-- How the allocation of a length ends from a store, and what store it leaves. -/
inductive AllocationEnds (context : Context) (length : UInt32) (store : Store) :
    Except Fault Buffer → Store → Prop
  /-- No bytes are asked for. -/
  | empty (zero : length = 0) :
      AllocationEnds context length store (.error (.allocationFailed length .zeroLength)) store
  | missing (positive : length ≠ 0) (lacks : context.Lacks context.allocator) :
      AllocationEnds context length store
        (.error (.allocationFailed length (.missing context.allocator))) store
  /-- The allocator takes or gives what is no integer. -/
  | foreign {id : String} {type : Wasm.FuncType} (positive : length ≠ 0)
      (shows : context.Shows context.allocator id type) (foreign : type.Foreign) :
      AllocationEnds context length store
        (.error (.allocationFailed length
          (.failed (Fault.signatureMismatch context.allocator (.exportNotInteger type)).message))) store
  /-- The allocator does not take one argument. -/
  | arity {id : String} {signature : Signature} (positive : length ≠ 0)
      (shows : context.Shows context.allocator id signature.funcType)
      (differ : signature.params.length ≠ 1) :
      AllocationEnds context length store
        (.error (.allocationFailed length
          (.failed (Fault.arityMismatch context.allocator signature.params.length 1).message))) store
  | trapped {cause : Trap} {left : Store} (positive : length ≠ 0)
      (ran : context.AllocatorRuns length store (some (.error (.trap cause), left))) :
      AllocationEnds context length store
        (.error (.allocationFailed length (.failed (Fault.guestTrapped cause).message))) left
  | starved {left : Store} (positive : length ≠ 0)
      (ran : context.AllocatorRuns length store (some (.error .outOfFuel, left))) :
      AllocationEnds context length store (.error .fuelExhausted) left
  | refused {text : String} {left : Store} (positive : length ≠ 0)
      (ran : context.AllocatorRuns length store (some (.error (.refused text), left))) :
      AllocationEnds context length store (.error (.engine text)) left
  /-- A host function that the allocator calls raises what is taken for the allocator's failure. -/
  | raisedBreak {fault : Fault} {left : Store} (positive : length ≠ 0)
      (ran : context.AllocatorRuns length store (some (.error (.raised fault), left)))
      (breaks : fault.Breaks) :
      AllocationEnds context length store
        (.error (.allocationFailed length (.failed fault.message))) left
  /-- A host function that the allocator calls does not find an export, and the allocator is blamed. -/
  | raisedMissing {name : String} {left : Store} (positive : length ≠ 0)
      (ran : context.AllocatorRuns length store
        (some (.error (.raised (.exportNotFound name)), left))) :
      AllocationEnds context length store
        (.error (.allocationFailed length (.missing context.allocator))) left
  /-- Anything else that a host function raises below the allocator comes back as it is. -/
  | raised {fault : Fault} {left : Store} (positive : length ≠ 0)
      (ran : context.AllocatorRuns length store (some (.error (.raised fault), left)))
      (holds : ¬ fault.Breaks) (found : ∀ name, fault ≠ .exportNotFound name) :
      AllocationEnds context length store (.error fault) left
  /-- The allocator answers anything but one short word. -/
  | misshapen {values : List Value} {left : Store} (positive : length ≠ 0)
      (ran : context.AllocatorRuns length store (some (.ok values, left)))
      (shape : ∀ pointer, values ≠ [.i32 pointer]) :
      AllocationEnds context length store
        (.error (.allocationFailed length (.wrongResults values))) left
  | null {left : Store} (positive : length ≠ 0)
      (ran : context.AllocatorRuns length store (some (.ok [.i32 0], left))) :
      AllocationEnds context length store (.error (.allocationFailed length .null)) left
  /-- The span does not lie inside memory as the allocator has left it. -/
  | outside {pointer : UInt32} {left : Store} (positive : length ≠ 0)
      (ran : context.AllocatorRuns length store (some (.ok [.i32 pointer], left)))
      (nonzero : pointer ≠ 0) (outside : left.memory.size < pointer.toNat + length.toNat) :
      AllocationEnds context length store
        (.error (.allocationFailed length (.outOfBounds pointer))) left
  | given {pointer : UInt32} {left : Store} (positive : length ≠ 0)
      (ran : context.AllocatorRuns length store (some (.ok [.i32 pointer], left)))
      (nonzero : pointer ≠ 0) (inside : pointer.toNat + length.toNat ≤ left.memory.size) :
      AllocationEnds context length store (.ok ⟨⟨pointer, length⟩, .hostOwned⟩) left

section

variable {context : Context} {length : UInt32} {store : Store}

/-- An allocator only runs where the context shows it. -/
theorem AllocatorRuns.visible {ended : Option (Except Failure (List Value) × Store)}
    (ran : context.AllocatorRuns length store ended) : context.visible = true := by
  obtain ⟨_, _, _, shows, _⟩ := ran
  exact shows.1

/-- A length always fits, so there are three reasons to turn the allocator's call down. -/
theorem AllocationEnds.of_turned {fault : Fault} (positive : length ≠ 0)
    (turned : context.TurnsDown context.allocator [.i32 length] fault) :
    context.AllocationEnds length store (.error (allocatorFault length context.allocator fault))
      store := by
  cases turned with
  | missing lacks => exact .missing positive lacks
  | foreign shows foreign => exact .foreign positive shows foreign
  | arity shows differ => exact .arity positive shows (Ne.symm differ)
  | unfit shows same wide first =>
    obtain ⟨⟨word, long⟩, _⟩ := wide
    exact absurd (List.mem_of_getElem? long) (by simp)

/-- An allocator fails by itself, or because of a host function that it has called. -/
theorem AllocationEnds.of_failed {failure : Failure} {left : Store} (positive : length ≠ 0)
    (ran : context.AllocatorRuns length store (some (.error failure, left))) :
    context.AllocationEnds length store
      (.error (allocatorFault length context.allocator failure.fault)) left := by
  cases failure with
  | trap cause => exact .trapped positive ran
  | outOfFuel => exact .starved positive ran
  | refused text => exact .refused positive ran
  | raised fault =>
    cases fault with
    | exportNotFound name => exact .raisedMissing positive ran
    | guestTrapped | arityMismatch | signatureMismatch => exact .raisedBreak positive ran trivial
    | _ => exact .raised positive ran id nofun

/-- An allocator's answer is looked at part by part: its shape, then its pointer, then its span. -/
theorem AllocationEnds.of_answered {values : List Value} {left : Store} (positive : length ≠ 0)
    (ran : context.AllocatorRuns length store (some (.ok values, left))) :
    context.AllocationEnds length store (allocation length left.memory.size values) left := by
  unfold allocation
  split
  · rename_i pointer
    by_cases null : pointer = 0
    · subst null
      exact .null positive ran
    · rw [if_neg null]
      by_cases inside : pointer.toNat + length.toNat ≤ left.memory.size
      · rw [if_pos inside]
        exact .given positive ran null inside
      · rw [if_neg inside]
        exact .outside positive ran null (Nat.not_le.mp inside)
  · rename_i shape
    exact .misshapen positive ran shape

variable (valid : context.linked.guest.Valid)
include valid

/-- The call of the allocator passes its checks exactly if the function takes one integer, which a length
always fits. -/
theorem prepare_allocator_iff {id : String} {passed : List Value} :
    context.prepare context.allocator [.i32 length] = .ok (id, passed) ↔
      ∃ (param : NumType) (results : List NumType),
        context.Shows context.allocator id (Signature.funcType ⟨[param], results⟩) ∧
        passed = [(Value.i32 length).coerce param] := by
  rw [prepare_ok_iff]
  constructor
  · rintro ⟨⟨params, results⟩, found, checked⟩
    obtain ⟨fits, rfl⟩ := checkArguments_ok_iff.mp checked
    -- As many parameters as arguments is one parameter.
    obtain ⟨param, rfl⟩ : ∃ param, params = [param] :=
      List.length_eq_one_iff.mp fits.length_eq.symm
    exact ⟨param, results, (function?_eq_some_iff_shows valid).mp found, rfl⟩
  · rintro ⟨param, results, shows, rfl⟩
    exact ⟨_, (function?_eq_some_iff_shows valid).mpr shows,
      checkArguments_ok_iff.mpr ⟨.cons rfl .nil, rfl⟩⟩

/-- An allocator that is shown with one integer parameter is called with the length as its type has it. -/
theorem prepare_allocator {id : String} {param : NumType} {results : List NumType}
    (shows : context.Shows context.allocator id (Signature.funcType ⟨[param], results⟩)) :
    context.prepare context.allocator [.i32 length] =
      .ok (id, [(Value.i32 length).coerce param]) :=
  (prepare_allocator_iff valid).mpr ⟨param, results, shows, rfl⟩

/-- The call of the allocator is turned down, or the allocator runs. -/
theorem allocator_turned_or_runs (length : UInt32) (store : Store) :
    (∃ fault, context.TurnsDown context.allocator [.i32 length] fault) ∨
      ∃ ended, context.AllocatorRuns length store ended := by
  cases prepared : context.prepare context.allocator [.i32 length] with
  | error fault => exact .inl ⟨fault, (prepare_error_iff valid).mp prepared⟩
  | ok entry =>
    obtain ⟨param, results, shows, _⟩ := (prepare_allocator_iff valid).mp prepared
    exact .inr ⟨_, _, param, results, shows, rfl⟩

/-- Where the call of the allocator is turned down, nothing has happened. -/
theorem perform_allocate_turned {fault : Fault} (positive : length ≠ 0)
    (turned : context.TurnsDown context.allocator [.i32 length] fault) :
    context.perform (allocate length) store =
      some (.error (allocatorFault length context.allocator fault), store) := by
  -- The call gives its fault at once, and the allocation makes its own of it.
  have failed := (invoke_turned valid turned store).2 context.call
  simp only [allocate, if_neg positive, perform_bind, perform_conventions, perform_attempt, failed,
    perform_fail]

/-- Where the allocator runs, its end and the memory that it leaves decide. -/
theorem perform_allocate_ran (sees : context.SeesMemory) (positive : length ≠ 0)
    {ended : Option (Except Failure (List Value) × Store)}
    (ran : context.AllocatorRuns length store ended) :
    context.perform (allocate length) store =
      match ended with
      | none => none
      | some (.ok values, left) => some (allocation length left.memory.size values, left)
      | some (.error failure, left) =>
        some (.error (allocatorFault length context.allocator failure.fault), left) := by
  -- The call passes its checks, so what comes back is the end of the run.
  obtain ⟨id, param, results, shows, called⟩ := ran
  rw [perform_allocate sees positive, invoke, prepare_allocator valid shows]
  simp only [Run.surface, called]
  rcases ended with _ | ⟨_ | values, left⟩ <;> rfl

/-- Each of the cases is how the allocation then ends. -/
theorem AllocationEnds.perform (sees : context.visible = true → context.SeesMemory)
    {outcome : Except Fault Buffer} {left : Store}
    (ends : context.AllocationEnds length store outcome left) :
    context.perform (allocate length) store = some (outcome, left) := by
  -- What the allocator did is known in each case, and with it what the allocation makes of it.
  cases ends with
  | empty zero => rw [allocate, if_pos zero, perform_fail]
  | missing positive lacks => exact perform_allocate_turned valid positive (.missing lacks)
  | foreign positive shows foreign =>
    exact perform_allocate_turned valid positive (.foreign shows foreign)
  | arity positive shows differ =>
    exact perform_allocate_turned valid positive (.arity shows (Ne.symm differ))
  | trapped positive ran | starved positive ran | refused positive ran
    | raisedMissing positive ran | null positive ran =>
    exact perform_allocate_ran valid (sees ran.visible) positive ran
  | @raisedBreak fault _ positive ran breaks =>
    rw [perform_allocate_ran valid (sees ran.visible) positive ran]
    cases fault <;> first | rfl | exact breaks.elim
  | @raised fault _ positive ran holds found =>
    rw [perform_allocate_ran valid (sees ran.visible) positive ran]
    cases fault <;> first | rfl | exact absurd trivial holds | exact absurd rfl (found _)
  | misshapen positive ran shape =>
    rw [perform_allocate_ran valid (sees ran.visible) positive ran]
    simp only [allocation]
  | outside positive ran nonzero outside =>
    rw [perform_allocate_ran valid (sees ran.visible) positive ran]
    simp only [allocation, if_neg nonzero, if_neg (Nat.not_le.mpr outside)]
  | given positive ran nonzero inside =>
    rw [perform_allocate_ran valid (sees ran.visible) positive ran]
    simp only [allocation, if_neg nonzero, if_pos inside]

/-- An allocation ends as one of the cases says, and each of them is how it ends. -/
theorem perform_allocate_iff (sees : context.visible = true → context.SeesMemory)
    {outcome : Except Fault Buffer} {left : Store} :
    context.perform (allocate length) store = some (outcome, left) ↔
      context.AllocationEnds length store outcome left := by
  refine ⟨fun performed => ?_, AllocationEnds.perform valid sees⟩
  by_cases zero : length = 0
  · rw [allocate, if_pos zero] at performed
    cases performed
    exact .empty zero
  -- The allocator's call is turned down, or it runs and fails or answers.
  rcases allocator_turned_or_runs valid length store with ⟨fault, turned⟩ | ⟨ended, ran⟩
  · rw [perform_allocate_turned valid zero turned] at performed
    cases performed
    exact .of_turned zero turned
  · rw [perform_allocate_ran valid (sees ran.visible) zero ran] at performed
    rcases ended with _ | ⟨failure | values, stopped⟩
    · cases performed
    · cases performed
      exact .of_failed zero ran
    · cases performed
      exact .of_answered zero ran

/-- An allocation has no end exactly if its allocator has none. -/
theorem perform_allocate_none_iff (sees : context.visible = true → context.SeesMemory) :
    context.perform (allocate length) store = none ↔
      length ≠ 0 ∧ context.AllocatorRuns length store none := by
  constructor
  · intro endless
    by_cases zero : length = 0
    · rw [allocate, if_pos zero] at endless
      cases endless
    rcases allocator_turned_or_runs valid length store with ⟨fault, turned⟩ | ⟨ended, ran⟩
    · rw [perform_allocate_turned valid zero turned] at endless
      cases endless
    · rw [perform_allocate_ran valid (sees ran.visible) zero ran] at endless
      rcases ended with _ | ⟨_ | _, _⟩
      · exact ⟨zero, ran⟩
      · cases endless
      · cases endless
  · rintro ⟨positive, ran⟩
    rw [perform_allocate_ran valid (sees ran.visible) positive ran]

/-- An allocator that is shown with one integer parameter is the one function that is entered. -/
theorem entries_allocate_shown {id : String} {param : NumType} {results : List NumType}
    (positive : length ≠ 0)
    (shows : context.Shows context.allocator id (Signature.funcType ⟨[param], results⟩)) :
    context.entries (allocate length) store = [(id, [(Value.i32 length).coerce param])] := by
  rw [entries_allocate, if_neg positive, prepare_allocator valid shows]
  rfl

/-- Without bytes to ask for, or an allocator of one integer to ask, nothing of the guest is entered, and
the allocation fails whatever the functions of the instance would do. -/
theorem allocate_unentered
    (idle : length = 0 ∨ ∀ id param results,
      ¬ context.Shows context.allocator id (Signature.funcType ⟨[param], results⟩)) :
    context.entries (allocate length) store = [] ∧
      ∃ fault, ∀ call, ({ context with call } : Context).perform (allocate length) store =
        some (.error fault, store) := by
  by_cases zero : length = 0
  · refine ⟨by rw [entries_allocate, if_pos zero], .allocationFailed length .zeroLength, fun call => ?_⟩
    rw [allocate, if_pos zero, perform_fail]
  · rcases allocator_turned_or_runs valid length store with
      ⟨fault, turned⟩ | ⟨_, id, param, results, shows, _⟩
    · have failed := (prepare_error_iff valid).mpr turned
      refine ⟨by rw [entries_allocate, if_neg zero, failed]; rfl,
        allocatorFault length context.allocator fault, fun call => ?_⟩
      -- The checks do not look at what can be called.
      have same : ({ context with call } : Context).linked.guest.Valid := valid
      exact perform_allocate_turned same zero ((prepare_error_iff same).mp failed)
    · exact absurd shows (idle.resolve_left zero id param results)

end

end Context

/--
Allocations end in one of the ways that are told apart, and the host adds nothing to what the allocator did.

In any context of a linked guest, on any store and for any length, an allocation ends exactly as the cases
say, and has no end exactly if its allocator has none. A buffer that is given is the host's and as long as
was asked for, neither empty nor null, and inside the memory that the allocator has left, on the very store
that it has left. An allocator that is shown with one integer parameter is the one function that is entered.
Without it, or without bytes to ask for, none is: the allocation fails on the store it was given, whatever
the functions of the instance would do.
-/
theorem Linked.allocation_ends {settings : Settings} {registry : Registry} {guest : Wasm.Module}
    {linked : Linked} (sound : guest.defect? = none)
    (links : Linked.link settings registry guest = .ok linked) (patience depth : Nat)
    (visible : Bool) (self : String) (length : UInt32) (store : Store) :
    let context := linked.context patience depth visible self
    (∀ outcome left, context.perform (allocate length) store = some (outcome, left) ↔
      context.AllocationEnds length store outcome left) ∧
    (context.perform (allocate length) store = none ↔
      length ≠ 0 ∧ context.AllocatorRuns length store none) ∧
    (∀ buffer left, context.perform (allocate length) store = some (.ok buffer, left) →
      buffer.owner = .hostOwned ∧ buffer.length = length ∧ 0 < length.toNat ∧ buffer.pointer ≠ 0 ∧
        buffer.pointer.toNat + buffer.length.toNat ≤ left.memory.size ∧
        context.AllocatorRuns length store (some (.ok [.i32 buffer.pointer], left))) ∧
    (∀ id param results, length ≠ 0 →
      context.Shows context.allocator id (Signature.funcType ⟨[param], results⟩) →
      context.entries (allocate length) store = [(id, [(Value.i32 length).coerce param])]) ∧
    ((length = 0 ∨ ∀ id param results,
        ¬ context.Shows context.allocator id (Signature.funcType ⟨[param], results⟩)) →
      context.entries (allocate length) store = [] ∧
        ∃ fault, ∀ call, ({ context with call } : Context).perform (allocate length) store =
          some (.error fault, store)) := by
  have valid : linked.guest.Valid := link_valid sound links
  have sees : visible = true → (linked.context patience depth visible self).SeesMemory := by
    rintro rfl
    exact linked.context_seesMemory links patience depth self
  refine ⟨fun outcome left => Context.perform_allocate_iff valid sees,
    Context.perform_allocate_none_iff valid sees, fun buffer left given => ?_,
    fun id param results positive shows => Context.entries_allocate_shown valid positive shows,
    Context.allocate_unentered valid⟩
  -- There is one way for an allocation to give a buffer.
  cases (Context.perform_allocate_iff valid sees).mp given with
  | given positive ran nonzero inside =>
    exact ⟨rfl, rfl, UInt32.pos_iff_ne_zero.mpr positive, nonzero, inside, ran⟩

/-- An allocator that hands out memory without an end of it gives a buffer while it fits, and at the
largest length its pointer is out of bounds. -/
theorem Linked.allocation_ends_bump :
    (∃ left, (Sample.context Sample.descend).AllocatorRuns 8 (Sample.inst Sample.descend).store
        (some (.ok [.i32 16], left)) ∧ 16 + 8 ≤ left.memory.size) ∧
    ∃ left, (Sample.context Sample.descend).AllocationEnds 0xFFFFFFFF
      (Sample.inst Sample.descend).store
      (.error (.allocationFailed 0xFFFFFFFF (.outOfBounds 16))) left := by
  have sound : Sample.guest.defect? = none := rfl
  have links := Sample.links Sample.descend
  constructor
  · obtain ⟨left, given⟩ : ∃ left, (Sample.context Sample.descend).perform (allocate 8)
        (Sample.inst Sample.descend).store = some (.ok ⟨⟨16, 8⟩, .hostOwned⟩, left) := ⟨_, rfl⟩
    obtain ⟨_, _, _, _, inside, ran⟩ :=
      (Linked.allocation_ends sound links 16 16 true "host" 8 _).2.2.1 _ left given
    exact ⟨left, ran, inside⟩
  · obtain ⟨left, failed⟩ : ∃ left, (Sample.context Sample.descend).perform (allocate 0xFFFFFFFF)
        (Sample.inst Sample.descend).store =
          some (.error (.allocationFailed 0xFFFFFFFF (.outOfBounds 16)), left) := ⟨_, rfl⟩
    exact ⟨left, ((Linked.allocation_ends sound links 16 16 true "host" 0xFFFFFFFF _).1 _ left).mp
      failed⟩

end GuestBoundary
