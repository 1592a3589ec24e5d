import GuestBoundary.Program.Transfer

/-! The requests of host programs: what a program may ask in any of its runs, and that the operations of
the protocol ask for exports and for memory alone. -/

namespace GuestBoundary

variable {α β : Type}

/-- The requests that concern the instance: its names, its exports and its memory. The others are about
the host function that asks, and about records. -/
def Request.OfInstance : Request → Prop
  | .self | .log _ | .logged | .note _ => False
  | _ => True

namespace Program

/-- A program that only asks requests of a kind, whatever it is replied. -/
def Asks (kind : Request → Prop) : Program α → Prop
  | .done _ => True
  | .fail _ => True
  | .ask request resume => kind request ∧ ∀ reply, (resume reply).Asks kind

variable {kind : Request → Prop}

theorem asks_settle (outcome : Except Fault α) : (settle outcome).Asks kind := by
  cases outcome <;> trivial

/-- A sequence asks what its parts ask. -/
theorem asks_bind {program : Program α} {next : α → Program β} (first : program.Asks kind)
    (rest : ∀ value, (next value).Asks kind) : (program >>= next).Asks kind := by
  -- The sequence asks what its first part asks, and then goes on as the rest does.
  induction program with
  | done value => exact rest value
  | fail fault => trivial
  | ask request resume ih => exact ⟨first.1, fun reply => ih reply (first.2 reply)⟩

/-- An attempted program asks what the program asks. -/
theorem asks_attempt {program : Program α} (first : program.Asks kind) :
    program.attempt.Asks kind := by
  -- Attempting changes how a program ends, not what it asks.
  induction program with
  | done value => trivial
  | fail fault => trivial
  | ask request resume ih => exact ⟨first.1, fun reply => ih reply (first.2 reply)⟩

theorem asks_conventions (allowed : kind .conventions) : conventions.Asks kind :=
  ⟨allowed, fun _ => trivial⟩

theorem asks_hasExport {name : String} (allowed : kind (.function name)) :
    (hasExport name).Asks kind := ⟨allowed, fun _ => trivial⟩

theorem asks_signature {name : String} (allowed : kind (.function name)) :
    (signature name).Asks kind := by
  refine ⟨allowed, fun type => ?_⟩
  dsimp only
  split
  · trivial
  · split <;> trivial

theorem asks_invoke (name : String) (arguments : List Value) :
    (invoke name arguments).Asks Request.OfInstance := ⟨trivial, asks_settle⟩

theorem asks_resolve : View.resolve.Asks Request.OfInstance := by
  refine asks_bind (asks_conventions trivial) fun names => ⟨trivial, fun size => ?_⟩
  dsimp only
  split <;> trivial

theorem asks_size (view : View) : view.size.Asks Request.OfInstance := ⟨trivial, fun _ => trivial⟩

theorem asks_read (view : View) (offset length : UInt32) :
    (view.read offset length).Asks Request.OfInstance := ⟨trivial, asks_settle⟩

theorem asks_write (view : View) (offset : UInt32) (bytes : List UInt8) :
    (view.write offset bytes).Asks Request.OfInstance := ⟨trivial, asks_settle⟩

theorem asks_readBytes (span : Span) : (readBytes span).Asks Request.OfInstance :=
  asks_bind asks_resolve fun _ => asks_read _ _ _

theorem asks_readString (span : Span) : (readString span).Asks Request.OfInstance :=
  asks_bind (asks_readBytes span) fun _ => trivial

theorem asks_allocated (length : UInt32) (values : List Value) :
    (allocated length values).Asks Request.OfInstance := by
  -- Only a list of one pointer leads to requests, and those look at memory.
  unfold allocated
  split
  · split
    · trivial
    · refine asks_bind asks_resolve fun view => asks_bind (asks_size view) fun size => ?_
      split <;> trivial
  · trivial

theorem asks_allocate (length : UInt32) : (allocate length).Asks Request.OfInstance := by
  -- A call of the allocator, and a look at its answer.
  unfold allocate
  split
  · trivial
  · refine asks_bind (asks_conventions trivial) fun names =>
      asks_bind (asks_attempt (asks_invoke _ _)) fun outcome => ?_
    split
    · exact asks_allocated _ _
    · trivial

theorem asks_release (buffer : Buffer) : (release buffer).Asks Request.OfInstance := by
  refine asks_bind (asks_settle _) fun _ => asks_bind (asks_conventions trivial) fun names => ?_
  split
  · trivial
  · refine asks_bind (asks_hasExport trivial) fun found => ?_
    split
    · exact asks_bind (asks_signature trivial) fun declared => asks_bind (asks_settle _)
        fun arguments => asks_bind (asks_invoke _ _) fun _ => trivial
    · trivial

theorem asks_copyIn (bytes : List UInt8) : (copyIn bytes).Asks Request.OfInstance := by
  -- Also where the write fails, what follows is a release.
  unfold copyIn
  split
  · refine asks_bind asks_resolve fun view => asks_bind (asks_allocate _) fun buffer =>
      asks_bind (asks_attempt (asks_write _ _ _)) fun written => ?_
    split
    · trivial
    · exact asks_bind (asks_bind (asks_attempt (asks_release _)) fun _ => trivial) fun _ => trivial
  · trivial

theorem asks_guestBuffer (span : Span) : (guestBuffer span).Asks Request.OfInstance :=
  asks_bind asks_resolve fun view => asks_bind (asks_size view) fun _ =>
    asks_bind (asks_settle _) fun _ => trivial

theorem asks_readResult (values : List Value) (form : ResultForm) :
    (readResult values form).Asks Request.OfInstance :=
  asks_bind (asks_settle _) fun span => asks_bind (asks_guestBuffer span) fun _ => asks_readBytes _

theorem asks_writeOutSlots (bytes : List UInt8) (pointerSlot lengthSlot : UInt32) :
    (writeOutSlots bytes pointerSlot lengthSlot).Asks Request.OfInstance := by
  refine asks_bind asks_resolve fun view => asks_bind (asks_size view) fun _ =>
    asks_bind (asks_settle _) fun _ => asks_bind (asks_settle _) fun _ => ?_
  -- Both ways write the two words, and one of them copies the bytes in before.
  split
  · exact asks_bind (asks_write _ _ _) fun _ => asks_bind (asks_write _ _ _) fun _ => trivial
  · exact asks_bind (asks_copyIn bytes) fun _ => asks_bind (asks_write _ _ _) fun _ =>
      asks_bind (asks_write _ _ _) fun _ => trivial

end Program

end GuestBoundary
