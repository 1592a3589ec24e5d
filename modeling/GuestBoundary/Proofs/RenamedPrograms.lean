import GuestBoundary.Proofs.InnerFaults
import GuestBoundary.Proofs.Memory
import GuestBoundary.Proofs.Renaming
import GuestBoundary.Proofs.Wasm.Matching

/-! Host programs under new names: a program that knows no names but those of the conventions, and those
that it is given, does the same where they are renamed. -/

namespace GuestBoundary

/-- The second failure is the first one under new names. -/
inductive Failure.Renamed (names : Renaming) : Failure → Failure → Prop
  | trap (cause : Trap) : Renamed names (.trap cause) (.trap cause)
  | outOfFuel : Renamed names .outOfFuel .outOfFuel
  | raised {first second : Fault} : Fault.Renamed names first second →
      Renamed names (.raised first) (.raised second)
  | refused (text : String) : Renamed names (.refused text) (.refused text)

section

variable {names : Renaming}

/-- What the host sees of a failure is under new names as the failure is. -/
theorem Failure.Renamed.fault {first second : Failure} (renamed : Failure.Renamed names first second) :
    Fault.Renamed names first.fault second.fault := by
  cases renamed with
  | raised same => exact same
  | _ => exact .nameless trivial

/-- Guest code by itself names nothing when it fails. -/
theorem Failure.Renamed.own : Wasm.OwnAlike (Failure.Renamed names) := ⟨.trap, .outOfFuel⟩

/-- Runs of guest code that match under new names surface alike. -/
theorem Run.Matches.surface {α : Type} {first second : Run α}
    (alike : first.Matches (Failure.Renamed names) second) (store : Store) :
    Ends (Fault.Renamed names) Eq Eq (first.surface store) (second.surface store) := by
  have ends := alike store
  unfold Run.surface
  revert ends
  generalize first store = one
  generalize second store = two
  rintro (_ | ⟨⟨⟩, ⟨⟩⟩ | ⟨same, ⟨⟩⟩)
  · exact .endless
  · exact .value rfl rfl
  · exact .failure same.fault rfl

/-- Host code that ends alike under new names is carried alike by guest code. -/
theorem Run.carry_matches {α : Type} {first second : Store → Option (Except Fault α × Store)}
    (alike : ∀ store, Ends (Fault.Renamed names) Eq Eq (first store) (second store)) :
    (Run.carry first).Matches (Failure.Renamed names) (Run.carry second) := by
  intro store
  have ends := alike store
  unfold Run.carry
  revert ends
  generalize first store = one
  generalize second store = two
  rintro (_ | ⟨⟨⟩, ⟨⟩⟩ | ⟨same, ⟨⟩⟩)
  · exact .endless
  · exact .value rfl rfl
  · exact .failure (.raised same) rfl

end

/-- The second context is the first one under new names, and its calls match. -/
structure Context.Renamed (names : Renaming) (first second : Context) : Prop where
  linked : second.linked = first.linked.rename names
  visible : second.visible = first.visible
  self : second.self = first.self
  calls : ∀ id arguments,
    (first.call id arguments).Matches (Failure.Renamed names) (second.call id arguments)

/-- The second program does under new names what the first one does: it ends alike with a related value,
and leaves the same store. -/
def Program.Renamed {α β : Type} (names : Renaming) (values : α → β → Prop) (program : Program α)
    (other : Program β) : Prop :=
  ∀ first second, Context.Renamed names first second → ∀ store,
    Ends (Fault.Renamed names) values Eq (first.perform program store) (second.perform other store)

/-- Outcomes that are the same under new names are so on any one store. -/
theorem Outcome.Renamed.ends {α β : Type} {names : Renaming} {values : α → β → Prop}
    {first : Except Fault α} {second : Except Fault β}
    (renamed : Outcome.Renamed names values first second) (store : Store) :
    Ends (Fault.Renamed names) values Eq (some (first, store)) (some (second, store)) := by
  cases renamed with
  | ok same => exact .value same rfl
  | error same => exact .failure same rfl

/-- What ends has an outcome under new names, too. -/
theorem Ends.exists_renamed {α β σ τ : Type} {names : Renaming} {values : α → β → Prop}
    {states : σ → τ → Prop} {first : Except Fault α} {left : σ} {other : Option (Except Fault β × τ)}
    (ends : Ends (Fault.Renamed names) values states (some (first, left)) other) :
    ∃ second right, other = some (second, right) ∧ Outcome.Renamed names values first second ∧
      states left right := by
  cases ends with
  | value same kept => exact ⟨_, _, rfl, .ok same, kept⟩
  | failure same kept => exact ⟨_, _, rfl, .error same, kept⟩

namespace Region

variable {names : Renaming} (region : Region)

/-- Checks of ranges name nothing. -/
theorem checkRange_renamed (size : Nat) (offset length : UInt32) :
    Outcome.Renamed names Eq (checkRange size offset length) (checkRange size offset length) := by
  unfold checkRange
  split
  · exact .ok rfl
  · exact .error (.nameless trivial)

theorem read_renamed (offset length : UInt32) :
    Outcome.Renamed names Eq (region.read offset length) (region.read offset length) :=
  (checkRange_renamed _ _ _).bind fun _ _ _ => .ok rfl

theorem write_renamed (offset : UInt32) (bytes : List UInt8) :
    Outcome.Renamed names Eq (region.write offset bytes) (region.write offset bytes) := by
  unfold write
  split
  · exact (checkRange_renamed _ _ _).bind fun _ _ _ => .ok rfl
  · exact .error (.nameless trivial)

end Region

/-- A view of a memory under its new name. -/
def View.rename (names : Renaming) (view : View) : View := ⟨names.exported view.memory⟩

namespace Context.Renamed

variable {names : Renaming} {first second : Context} (renamed : Context.Renamed names first second)
include renamed

/-- A function is found under its new name. -/
theorem function? (name : String) :
    second.function? (names.exported name) = first.function? name := by
  simp [Context.function?, renamed.linked, renamed.visible, Linked.rename]

/-- A memory is shown under its new name. -/
theorem showsMemory (name : String) :
    second.showsMemory (names.exported name) = first.showsMemory name := by
  simp [Context.showsMemory, renamed.linked, renamed.visible, Linked.rename]

theorem memory (name : String) (store : Store) :
    Outcome.Renamed names Eq (first.memory name store)
      (second.memory (names.exported name) store) := by
  unfold Context.memory
  rw [renamed.showsMemory]
  split
  · exact .ok rfl
  · exact .error (.invalidModule _)

omit renamed in
/-- Arguments are checked alike, whatever the name of the function. -/
theorem checkArguments (name : String) (signature : Signature) (arguments : List Value) :
    Outcome.Renamed names Eq (Context.checkArguments name signature arguments)
      (Context.checkArguments (names.exported name) signature arguments) := by
  unfold Context.checkArguments
  split
  · exact .error (.arityMismatch name _ _)
  · split
    · exact .error (.exportMismatch name _)
    · exact .ok rfl

/-- A call is prepared alike under the new name of its function. -/
theorem prepare (name : String) (arguments : List Value) :
    Outcome.Renamed names Eq (first.prepare name arguments)
      (second.prepare (names.exported name) arguments) := by
  unfold Context.prepare
  rw [renamed.function?]
  split
  · exact .error (.exportNotFound name)
  · split
    · exact .error (.exportMismatch name _)
    · refine (checkArguments name _ arguments).bind fun one other same => ?_
      cases same
      exact .ok rfl

/-- A call comes to the same under the new name of its function. -/
theorem invoke (name : String) (arguments : List Value) (store : Store) :
    Ends (Fault.Renamed names) Eq Eq (first.invoke name arguments store)
      (second.invoke (names.exported name) arguments store) := by
  -- Both calls are turned down, or both enter the same function.
  have prepared := renamed.prepare name arguments
  unfold Context.invoke
  revert prepared
  generalize first.prepare name arguments = one
  generalize second.prepare (names.exported name) arguments = two
  rintro (⟨⟨⟩⟩ | same)
  · exact (renamed.calls _ _).surface store
  · exact .failure same rfl

end Context.Renamed

namespace Program

variable {names : Renaming} {α β γ δ : Type}

theorem renamed_pure {values : α → β → Prop} {first : α} {second : β}
    (same : values first second) : Renamed names values (pure first) (pure second) :=
  fun _ _ _ _ => .value same rfl

theorem renamed_fail {values : α → β → Prop} {first second : Fault}
    (same : Fault.Renamed names first second) : Renamed names values (.fail first) (.fail second) :=
  fun _ _ _ _ => .failure same rfl

theorem renamed_settle {values : α → β → Prop} {first : Except Fault α} {second : Except Fault β}
    (same : Outcome.Renamed names values first second) :
    Renamed names values (settle first) (settle second) := by
  cases same with
  | ok same => exact renamed_pure same
  | error same => exact renamed_fail same

/-- Programs in two parts do the same under new names if their parts do. -/
theorem renamed_bind {values : α → β → Prop} {others : γ → δ → Prop} {program : Program α}
    {other : Program β} {next : α → Program γ} {later : β → Program δ}
    (start : Renamed names values program other)
    (rest : ∀ one two, values one two → Renamed names others (next one) (later two)) :
    Renamed names others (program >>= next) (other >>= later) := by
  -- The second parts start from one store with related values, if they start at all.
  intro first second renamed store
  have ends := start first second renamed store
  rw [Context.perform_bind, Context.perform_bind]
  revert ends
  generalize first.perform program store = one
  generalize second.perform other store = two
  rintro (_ | ⟨same, ⟨⟩⟩ | ⟨same, ⟨⟩⟩)
  · exact .endless
  · exact rest _ _ same first second renamed _
  · exact .failure same rfl

/-- Programs go on alike from a value that is the same under new names. -/
theorem renamed_bind_eq {others : γ → δ → Prop} {program other : Program α} {next : α → Program γ}
    {later : α → Program δ} (start : Renamed names Eq program other)
    (rest : ∀ value, Renamed names others (next value) (later value)) :
    Renamed names others (program >>= next) (other >>= later) :=
  renamed_bind start fun _ _ same => same ▸ rest _

/-- Attempts end with outcomes that are the same under new names. -/
theorem renamed_attempt {values : α → β → Prop} {program : Program α} {other : Program β}
    (start : Renamed names values program other) :
    Renamed names (Outcome.Renamed names values) program.attempt other.attempt := by
  intro first second renamed store
  have ends := start first second renamed store
  rw [Context.perform_attempt, Context.perform_attempt]
  revert ends
  generalize first.perform program store = one
  generalize second.perform other store = two
  rintro (_ | ⟨same, ⟨⟩⟩ | ⟨same, ⟨⟩⟩)
  · exact .endless
  · exact .value (.ok same) rfl
  · exact .value (.error same) rfl

theorem renamed_conventions : Renamed names (·.rename names = ·) conventions conventions := by
  intro first second renamed store
  rw [Context.perform_conventions, Context.perform_conventions, renamed.linked]
  exact .value rfl rfl

theorem renamed_log (message : String) : Renamed names Eq (log message) (log message) := by
  intro first second renamed store
  simp only [log, Context.perform, Context.answer, renamed.self]
  exact .value rfl rfl

theorem renamed_note (event : Event) : Renamed names Eq (note event) (note event) :=
  fun _ _ _ _ => .value rfl rfl

theorem renamed_invoke (name : String) (arguments : List Value) :
    Renamed names Eq (invoke name arguments) (invoke (names.exported name) arguments) := by
  intro first second renamed store
  rw [Context.perform_invoke, Context.perform_invoke]
  exact renamed.invoke name arguments store

theorem renamed_hasExport (name : String) :
    Renamed names Eq (hasExport name) (hasExport (names.exported name)) := by
  intro first second renamed store
  rw [Context.perform_hasExport, Context.perform_hasExport, renamed.function?]
  exact .value rfl rfl

theorem renamed_signature (name : String) :
    Renamed names Eq (signature name) (signature (names.exported name)) := by
  intro first second renamed store
  rw [Context.perform_signature, Context.perform_signature, renamed.function?]
  split
  · exact .failure (.exportNotFound name) rfl
  · split
    · exact .failure (.exportMismatch name _) rfl
    · exact .value rfl rfl

end Program

namespace View

variable {names : Renaming}

/-- The memory that the conventions name is found under its new name. -/
theorem renamed_resolve : Program.Renamed names (·.rename names = ·) resolve resolve := by
  refine Program.renamed_bind Program.renamed_conventions ?_
  rintro conventions _ rfl first second renamed store
  simp only [Context.perform, Context.answer, Conventions.rename, renamed.showsMemory]
  cases first.showsMemory conventions.memoryExport with
  | true => exact .value rfl rfl
  | false => exact .failure (.invalidModule _) rfl

/-- Programs go on alike from the memory that the conventions name. -/
theorem renamed_bind_resolve {α β : Type} {values : α → β → Prop} {next : View → Program α}
    {later : View → Program β}
    (rest : ∀ view, Program.Renamed names values (next view) (later (view.rename names))) :
    Program.Renamed names values (resolve >>= next) (resolve >>= later) :=
  Program.renamed_bind renamed_resolve fun _ _ same => same ▸ rest _

theorem renamed_size (view : View) : Program.Renamed names Eq view.size (view.rename names).size := by
  intro first second renamed store
  simp only [size, rename, Context.perform, Context.answer, renamed.showsMemory]
  exact .value rfl rfl

theorem renamed_read (view : View) (offset length : UInt32) :
    Program.Renamed names Eq (view.read offset length) ((view.rename names).read offset length) := by
  intro first second renamed store
  simp only [read, rename, Context.perform, Context.answer, Context.perform_settle]
  refine Outcome.Renamed.ends ((renamed.memory view.memory store).bind ?_) store
  rintro memory _ rfl
  exact Region.read_renamed memory offset length

theorem renamed_write (view : View) (offset : UInt32) (bytes : List UInt8) :
    Program.Renamed names Eq (view.write offset bytes)
      ((view.rename names).write offset bytes) := by
  -- Both writes go to the same memory, or both fail and leave it as it is.
  intro first second renamed store
  simp only [write, rename, Context.perform, Context.answer]
  have written : Outcome.Renamed names Eq
      ((first.memory view.memory store).bind (·.write offset bytes))
      ((second.memory (names.exported view.memory) store).bind (·.write offset bytes)) :=
    (renamed.memory view.memory store).bind fun memory _ same =>
      same ▸ Region.write_renamed memory offset bytes
  revert written
  generalize (first.memory view.memory store).bind (·.write offset bytes) = one
  generalize (second.memory (names.exported view.memory) store).bind (·.write offset bytes) = two
  rintro (⟨⟨⟩⟩ | same)
  · exact .value rfl rfl
  · exact .failure same rfl

theorem renamed_writeWord (view : View) (offset word : UInt32) :
    Program.Renamed names Eq (view.writeWord offset word)
      ((view.rename names).writeWord offset word) := renamed_write view offset _

end View

/-- The fault of an allocation is under new names as that of its allocator is. -/
theorem Program.allocatorFault_renamed {names : Renaming} (length : UInt32) (allocator : String)
    {first second : Fault} (renamed : Fault.Renamed names first second) :
    Fault.Renamed names (allocatorFault length allocator first)
      (allocatorFault length (names.exported allocator) second) := by
  cases renamed with
  | nameless none =>
    -- Of the faults that name nothing, only a trap becomes the allocation's failure.
    cases first with
    | guestTrapped trap => exact .allocatorFailed length (.nameless trivial)
    | signatureMismatch | exportNotFound | arityMismatch => exact none.elim
    | _ => exact .nameless none
  | unresolvedImport space name => exact .unresolvedImport space name
  | hostMismatch space name why => exact .allocatorFailed length (.hostMismatch space name why)
  | exportMismatch name why => exact .allocatorFailed length (.exportMismatch name why)
  | exportNotFound name => exact .allocatorMissing length allocator
  | arityMismatch name expected actual =>
    exact .allocatorFailed length (.arityMismatch name expected actual)
  | allocatorMissing length name => exact .allocatorMissing length name
  | allocatorFailed length same => exact .allocatorFailed length same
  | invalidModule why => exact .invalidModule why

namespace Program

variable {names : Renaming} {α : Type}

theorem renamed_allocated (length : UInt32) (values : List Value) :
    Renamed names Eq (allocated length values) (allocated length values) := by
  -- What the allocator has answered is held against memory, and against nothing that has a name.
  unfold allocated
  split
  · split
    · exact renamed_fail (.nameless trivial)
    · refine View.renamed_bind_resolve fun view => ?_
      refine renamed_bind_eq (View.renamed_size view) fun size => ?_
      split
      · exact renamed_pure rfl
      · exact renamed_fail (.nameless trivial)
  · exact renamed_fail (.nameless trivial)

/-- The allocator is the one that the conventions name. -/
theorem renamed_allocate (length : UInt32) :
    Renamed names Eq (allocate length) (allocate length) := by
  unfold allocate
  split
  · exact renamed_fail (.nameless trivial)
  · -- Each side asks its own conventions, so the two allocators are the same one.
    refine renamed_bind renamed_conventions ?_
    rintro conventions _ rfl
    refine renamed_bind (renamed_attempt (renamed_invoke conventions.allocExport _)) ?_
    rintro _ _ (⟨⟨⟩⟩ | same)
    · exact renamed_allocated _ _
    · exact renamed_fail (allocatorFault_renamed _ _ same)

theorem checkRelease_renamed (buffer : Buffer) :
    Outcome.Renamed names Eq buffer.checkRelease buffer.checkRelease := by
  unfold Buffer.checkRelease
  split
  · exact .ok rfl
  · exact .error (.nameless trivial)

theorem deallocatorArguments_renamed (deallocator : String) (buffer : Buffer) (arity : Nat) :
    Outcome.Renamed names Eq (deallocatorArguments deallocator buffer arity)
      (deallocatorArguments (names.exported deallocator) buffer arity) := by
  unfold deallocatorArguments
  split
  · exact .ok rfl
  · exact .ok rfl
  · exact .error (.exportMismatch deallocator _)

/-- The deallocator is the one that the conventions name, if they name one and the guest has it. -/
theorem renamed_release (buffer : Buffer) :
    Renamed names Eq (release buffer) (release buffer) := by
  unfold release
  refine renamed_bind_eq (renamed_settle (checkRelease_renamed buffer)) fun _ => ?_
  refine renamed_bind renamed_conventions ?_
  rintro conventions _ rfl
  simp only [Conventions.rename]
  -- The deallocator is there under the one name exactly if it is there under the other.
  cases conventions.freeExport with
  | none => exact renamed_pure rfl
  | some deallocator =>
    refine renamed_bind_eq (renamed_hasExport deallocator) fun found => ?_
    split
    · refine renamed_bind_eq (renamed_signature deallocator) fun declared => ?_
      refine renamed_bind_eq (renamed_settle (deallocatorArguments_renamed _ _ _)) fun arguments => ?_
      exact renamed_bind_eq (renamed_invoke _ _) fun _ => renamed_pure rfl
    · exact renamed_pure rfl

theorem renamed_releaseAfterFailure (buffer : Buffer) :
    Renamed names Eq (releaseAfterFailure buffer) (releaseAfterFailure buffer) :=
  renamed_bind (renamed_attempt (renamed_release buffer)) fun _ _ _ => renamed_pure rfl

/-- A fault that counts more than the release before it is under new names as it was. -/
theorem renamed_failReleased (buffer : Buffer) {first second : Fault}
    (same : Fault.Renamed names first second) :
    Renamed names (Eq (α := α))
      (do releaseAfterFailure buffer; .fail first) (do releaseAfterFailure buffer; .fail second) :=
  renamed_bind_eq (renamed_releaseAfterFailure buffer) fun _ => renamed_fail same

theorem renamed_copyIn (bytes : List UInt8) :
    Renamed names Eq (copyIn bytes) (copyIn bytes) := by
  -- The memory is found, a buffer is allocated, and given back if the bytes do not fit.
  unfold copyIn
  split
  · refine View.renamed_bind_resolve fun view => ?_
    refine renamed_bind_eq (renamed_allocate _) fun buffer => ?_
    refine renamed_bind (renamed_attempt (View.renamed_write view _ _)) ?_
    rintro _ _ (_ | same)
    · exact renamed_pure rfl
    · exact renamed_failReleased buffer same
  · exact renamed_fail (.nameless trivial)

/-- A scope does the same under new names if its body does. -/
theorem renamed_withGuestBytes (bytes : List UInt8) {body other : Buffer → Program α}
    (bodies : ∀ buffer, Renamed names Eq (body buffer) (other buffer)) :
    Renamed names Eq (withGuestBytes bytes body) (withGuestBytes bytes other) := by
  unfold withGuestBytes
  split
  · exact bodies _
  · -- Both notes are about the one buffer, whatever the body comes to.
    refine renamed_bind_eq (renamed_copyIn bytes) fun buffer => ?_
    refine renamed_bind_eq (renamed_note _) fun _ => ?_
    refine renamed_bind (renamed_attempt (bodies buffer)) ?_
    rintro outcome other same
    refine renamed_bind_eq (renamed_note _) fun _ => ?_
    cases same with
    | ok same => exact renamed_bind_eq (renamed_release buffer) fun _ => renamed_pure same
    | error same => exact renamed_failReleased buffer same

theorem renamed_guestBuffer (span : Span) :
    Renamed names Eq (guestBuffer span) (guestBuffer span) := by
  refine View.renamed_bind_resolve fun view => ?_
  refine renamed_bind_eq (View.renamed_size view) fun size => ?_
  exact renamed_bind_eq (renamed_settle (Region.checkRange_renamed _ _ _)) fun _ => renamed_pure rfl

theorem renamed_readBytes (span : Span) :
    Renamed names Eq (readBytes span) (readBytes span) := by
  refine View.renamed_bind_resolve fun view => ?_
  exact View.renamed_read view _ _

theorem renamed_readString (span : Span) :
    Renamed names Eq (readString span) (readString span) :=
  renamed_bind_eq (renamed_readBytes span) fun _ => renamed_pure rfl

theorem renamed_readResult (values : List Value) (form : ResultForm) :
    Renamed names Eq (readResult values form) (readResult values form) := by
  have described : Outcome.Renamed names Eq (form.readSpan values) (form.readSpan values) := by
    unfold ResultForm.readSpan
    split
    · exact .ok rfl
    · exact .error (.nameless trivial)
  refine renamed_bind_eq (renamed_settle described) fun span => ?_
  refine renamed_bind_eq (renamed_guestBuffer span) fun buffer => ?_
  exact renamed_readBytes _

theorem renamed_callReturningBytes (name : String) (arguments : List Value) (form : ResultForm) :
    Renamed names Eq (callReturningBytes name arguments form)
      (callReturningBytes (names.exported name) arguments form) := by
  refine renamed_bind_eq (renamed_invoke name arguments) fun values => ?_
  exact renamed_readResult values form

theorem renamed_callWithBytes (name : String) (bytes : List UInt8) (form : ResultForm) :
    Renamed names Eq (callWithBytes name bytes form)
      (callWithBytes (names.exported name) bytes form) :=
  renamed_withGuestBytes bytes fun buffer => renamed_callReturningBytes name buffer.span.pair form

theorem renamed_callWithText (name text : String) (form : ResultForm) :
    Renamed names Eq (callWithText name text form)
      (callWithText (names.exported name) text form) :=
  renamed_bind_eq (renamed_callWithBytes name _ form) fun _ => renamed_pure rfl

theorem renamed_writeOutSlots (bytes : List UInt8) (pointerSlot lengthSlot : UInt32) :
    Renamed names Eq (writeOutSlots bytes pointerSlot lengthSlot)
      (writeOutSlots bytes pointerSlot lengthSlot) := by
  refine View.renamed_bind_resolve fun view => ?_
  refine renamed_bind_eq (View.renamed_size view) fun size => ?_
  -- Both slots are checked before anything is allocated or written.
  refine renamed_bind_eq (renamed_settle (Region.checkRange_renamed _ _ _)) fun _ => ?_
  refine renamed_bind_eq (renamed_settle (Region.checkRange_renamed _ _ _)) fun _ => ?_
  split
  · refine renamed_bind_eq (View.renamed_writeWord view _ _) fun _ => ?_
    exact renamed_bind_eq (View.renamed_writeWord view _ _) fun _ => renamed_pure rfl
  · refine renamed_bind_eq (renamed_copyIn bytes) fun buffer => ?_
    refine renamed_bind_eq (View.renamed_writeWord view _ _) fun _ => ?_
    exact renamed_bind_eq (View.renamed_writeWord view _ _) fun _ => renamed_pure rfl

end Program

namespace Capability

variable {names : Renaming}

theorem renamed_logText (span : Span) :
    Program.Renamed names Eq (logText span) (logText span) := by
  refine Program.renamed_bind_eq (Program.renamed_readString span) fun message => ?_
  exact Program.renamed_log message

theorem renamed_talk (respond : String → String) (span : Span) (pointerSlot lengthSlot : UInt32) :
    Program.Renamed names Eq (talk respond span pointerSlot lengthSlot)
      (talk respond span pointerSlot lengthSlot) := by
  refine Program.renamed_bind_eq (Program.renamed_readString span) fun request => ?_
  exact Program.renamed_bind_eq (Program.renamed_writeOutSlots _ _ _) fun _ =>
    Program.renamed_pure rfl

/-- The standard capabilities know no names but those of the conventions. -/
theorem Standard.renamed_body {host : HostFunction} (standard : Standard host)
    (arguments : List Value) :
    Program.Renamed names Eq (host.body arguments) (host.body arguments) := by
  have answers {work : Program Unit} (renamed : Program.Renamed names Eq work work)
      (values : List Value) : Program.Renamed names Eq (do work; return values)
        (do work; return values) :=
    Program.renamed_bind_eq renamed fun _ => Program.renamed_pure rfl
  cases standard with
  | logString space => exact answers (renamed_logText _) _
  | logWord space => exact answers (Program.renamed_log _) _
  | talkPlain respond space => exact answers (renamed_talk _ _ _ _) _
  | getString text space =>
    exact Program.renamed_bind_eq (Program.renamed_writeOutSlots _ _ _) fun _ =>
      Program.renamed_pure rfl
  | printString space => exact answers (renamed_logText _) _
  | talkStatus respond space => exact answers (renamed_talk _ _ _ _) _

end Capability

/-- A host function runs alike under its new name if its body does the same. -/
theorem HostFunction.renamed_run {names : Renaming} {host : HostFunction} {arguments : List Value}
    (body : Program.Renamed names Eq (host.body arguments) (host.body arguments)) :
    Program.Renamed names Eq (host.run arguments) ((host.rename names).run arguments) := by
  refine Program.renamed_bind_eq body fun values => ?_
  change Program.Renamed names Eq _ (if host.signature.acceptsResults values then _ else _)
  by_cases accepted : host.signature.acceptsResults values
  · simp only [if_pos accepted]
    exact Program.renamed_pure rfl
  · simp only [if_neg accepted]
    exact Program.renamed_fail (.hostMismatch _ _ _)

end GuestBoundary
