import GuestBoundary.Proofs.Arguments
import GuestBoundary.Proofs.Requests
import GuestBoundary.Proofs.Told

/-! The operations of the protocol, told: what is handed out lies inside memory, what an operation gives
back itself it has allocated before, and a release enters the deallocator and nothing else. -/

namespace GuestBoundary

variable {α β : Type}

namespace Context

variable {context : Context} {store left : Store}

/-- A sequence that gives a value has gone through one of its first part. -/
theorem perform_bind_ok {program : Program α} {next : α → Program β} {value : β}
    (performed : context.perform (program >>= next) store = some (.ok value, left)) :
    ∃ first middle, context.perform program store = some (.ok first, middle) ∧
      context.perform (next first) middle = some (.ok value, left) := by
  rw [perform_bind] at performed
  split at performed
  · cases performed
  · rename_i first middle ran
    exact ⟨first, middle, ran, performed⟩
  · cases performed

/-- Only a context that sees memory resolves it, and it does so without changing anything. -/
theorem resolve_ok {view : View}
    (resolved : context.perform View.resolve store = some (.ok view, left)) :
    context.SeesMemory ∧ view = context.view ∧ left = store := by
  -- A context that does not see memory answers with a fault.
  by_cases sees : context.SeesMemory
  · rw [perform_resolve sees] at resolved
    cases resolved
    exact ⟨sees, rfl, rfl⟩
  · rw [perform_resolve_blind sees] at resolved
    cases resolved

/-- Where an allocation succeeds, memory is seen. -/
theorem allocate_sees {length : UInt32} {buffer : Buffer}
    (given : context.perform (Program.allocate length) store = some (.ok buffer, left)) :
    context.SeesMemory := by
  -- The allocator's answer is held against the size of memory.
  unfold Program.allocate at given
  split at given
  · cases given
  · obtain ⟨_, _, _, given⟩ := perform_bind_ok given
    obtain ⟨answer, _, _, given⟩ := perform_bind_ok given
    cases answer with
    | error fault => cases given
    | ok values =>
      simp only [Program.allocated] at given
      split at given
      · split at given
        · cases given
        · obtain ⟨_, _, resolved, _⟩ := perform_bind_ok given
          exact (resolve_ok resolved).1
      · cases given

/-- An allocation gives a buffer that the host owns, neither null nor empty, inside memory. -/
theorem allocate_given {length : UInt32} {buffer : Buffer}
    (given : context.perform (Program.allocate length) store = some (.ok buffer, left)) :
    ∃ pointer, buffer = ⟨⟨pointer, length⟩, .hostOwned⟩ ∧ pointer ≠ 0 ∧ length ≠ 0 ∧
      buffer.Inside left := by
  obtain ⟨positive, whole, nonzero, inside, _⟩ := allocate_ok (allocate_sees given) given
  have same : buffer.length = length := congrArg Buffer.length whole
  exact ⟨buffer.pointer, whole, nonzero, positive, by rw [Buffer.Inside, same]; exact inside⟩

/-- A span that becomes a buffer of the guest lies inside memory, which is left alone. -/
theorem guestBuffer_given {span : Span} {buffer : Buffer}
    (given : context.perform (Program.guestBuffer span) store = some (.ok buffer, left)) :
    buffer.owner = .guestOwned ∧ buffer.Inside left ∧ left = store := by
  -- The span is held against the size of memory before it becomes a buffer.
  by_cases sees : context.SeesMemory
  · simp only [Program.guestBuffer, perform_bind, perform_resolve sees, perform_size sees,
      perform_settle] at given
    by_cases inside : span.pointer.toNat + span.length.toNat ≤ store.memory.size
    · rw [Region.checkRange_ok inside] at given
      cases given
      exact ⟨rfl, inside, rfl⟩
    · rw [Region.checkRange_error (by omega)] at given
      cases given
  · obtain ⟨_, _, resolved, _⟩ := perform_bind_ok given
    exact absurd (resolve_ok resolved).1 sees

/-- A buffer of the guest that is read from results lies inside memory, which is left alone. -/
theorem readGuestBuffer_given {values : List Value} {buffer : Buffer}
    (given : context.perform (Program.readGuestBuffer values) store = some (.ok buffer, left)) :
    buffer.owner = .guestOwned ∧ buffer.Inside left ∧ left = store := by
  -- Reading the results asks for nothing.
  obtain ⟨span, middle, read, checked⟩ := perform_bind_ok given
  rw [perform_settle] at read
  obtain ⟨_, rfl⟩ := Prod.mk.inj (Option.some.inj read)
  exact guestBuffer_given checked

/-- Bytes that are copied in fill a buffer that the host owns, inside memory. -/
theorem copyIn_given {bytes : List UInt8} {buffer : Buffer}
    (given : context.perform (Program.copyIn bytes) store = some (.ok buffer, left)) :
    buffer.owner = .hostOwned ∧ buffer.Inside left := by
  -- Memory is resolved before the allocator is asked, and the bytes read back in the end.
  have sees : context.SeesMemory := by
    unfold Program.copyIn at given
    split at given
    · obtain ⟨_, _, resolved, _⟩ := perform_bind_ok given
      exact (resolve_ok resolved).1
    · cases given
  obtain ⟨owned, held⟩ := copyIn_ok sees given
  exact ⟨owned, (Region.read_ok held).1⟩

/-- A signature that is given is the one of an exported function. -/
theorem signature_given {name : String} {declared : Signature}
    (given : context.perform (Program.signature name) store = some (.ok declared, left)) :
    ∃ id, context.function? name = some (id, declared.funcType) := by
  -- The type that was found is the one that the signature was read from.
  rw [perform_signature] at given
  cases found : context.function? name with
  | none =>
    rw [found] at given
    cases given
  | some function =>
    obtain ⟨id, type⟩ := function
    simp only [found] at given
    cases known : type.signature? with
    | none =>
      rw [known] at given
      cases given
    | some signature =>
      rw [known] at given
      cases given
      exact ⟨id, by rw [Wasm.FuncType.signature?_eq_some_iff.mp known]⟩

/-- A write through the view leaves the size of memory as it is. -/
theorem write_size (sees : context.SeesMemory) {offset : UInt32} {bytes : List UInt8}
    {outcome : Except Fault Unit}
    (written : context.perform (context.view.write offset bytes) store = some (outcome, left)) :
    left.memory.size = store.memory.size := by
  -- A write that succeeds is a step of the host, and one that fails changes nothing.
  rw [perform_write sees] at written
  split at written
  · rename_i memory wrote
    cases written
    exact (HostStep.write wrote).memorySize
  · cases written
    rfl

theorem perform_attempt_ok {program : Program α} {outcome : Except Fault α}
    (performed : context.perform program.attempt store = some (.ok outcome, left)) :
    context.perform program store = some (outcome, left) := by
  rw [perform_attempt] at performed
  split at performed
  · cases performed
  · rename_i ran
    cases performed
    exact ran

end Context

namespace Program

/-- A program that calls nothing, whatever it is replied. -/
abbrev Quiet : Program α → Prop :=
  Asks fun request => ∀ name arguments, request ≠ .invoke name arguments

end Program

namespace Annotated

variable {context : Context} {calls : String → List Value → Store → List Moment}
  {earlier : List Moment} {store : Store}

/-- What calls nothing is told of, whatever it is for. -/
theorem toldAt_quiet (told : context.CallsTold calls) {program : Program α} (quiet : program.Quiet)
    (purpose : Purpose) (earlier : List Moment) (store : Store) :
    ToldAt context calls (plain purpose program) earlier store := by
  -- Only a call enters a function.
  induction program generalizing earlier store with
  | done value => exact toldAt_pure value
  | fail fault => exact toldAt_fail fault
  | ask request resume ih =>
    refine toldAt_ask told (fun id arguments entry => ?_) fun reply left _ =>
      ih reply (quiet.2 reply) _ left
    cases request with
    | invoke name given => exact absurd rfl (quiet.1 name given)
    | _ => cases entry

/-- A call for the release of a buffer is told of if what it enters is the deallocator. -/
theorem toldAt_deallocator (told : context.CallsTold calls) {buffer : Buffer} {name : String}
    {given : List Value}
    (deallocates : ∀ id arguments, context.prepare name given = .ok (id, arguments) →
      Occurs context.linked earlier ⟨.entered (.release buffer) id arguments, store, store⟩) :
    ToldAt context calls (plain (.release buffer) (Program.invoke name given)) earlier store := by
  -- A call that is turned down enters nothing.
  refine toldAt_ask told (fun id arguments entry => ?_) fun reply left _ =>
    toldAt_quiet told (Program.asks_settle reply) _ _ _
  simp only [Context.entered?] at entry
  split at entry
  · rename_i prepared
    cases entry
    exact deallocates id arguments prepared
  · cases entry

/-- A release that has been announced is told of: it enters the deallocator for a buffer that the host
owns, or nothing at all. -/
theorem toldAt_release (told : context.CallsTold calls) {buffer : Buffer}
    (announced : Happened (.marked (.releasing buffer)) earlier ∨
      Happened (.marked (.closing buffer)) earlier) :
    ToldAt context calls (plain (.release buffer) (Program.release buffer)) earlier store := by
  -- The owner is checked, then the deallocator is looked up, and it is called in the end.
  unfold Program.release
  simp only [plain_bind]
  refine toldAt_bind (toldAt_quiet told (Program.asks_settle _) _ _ _) fun _ _ checked => ?_
  have owned : buffer.owner = .hostOwned := by
    rw [program_plain, Context.perform_settle] at checked
    unfold Buffer.checkRelease at checked
    split at checked
    · assumption
    · cases checked
  refine toldAt_bind (toldAt_quiet told (Program.asks_conventions nofun) _ _ _) fun names _ known => ?_
  rw [program_plain, Context.perform_conventions] at known
  cases known
  cases agreed : context.linked.conventions.freeExport with
  | none => exact toldAt_pure ()
  | some deallocator =>
    simp only [plain_bind]
    refine toldAt_bind (toldAt_quiet told (Program.asks_hasExport nofun) _ _ _) fun found _ _ => ?_
    split
    · simp only [plain_bind]
      refine toldAt_bind (toldAt_quiet told (Program.asks_signature nofun) _ _ _)
        fun declared _ shown => ?_
      refine toldAt_bind (toldAt_quiet told (Program.asks_settle _) _ _ _) fun given _ taken => ?_
      refine toldAt_bind (toldAt_deallocator told fun id arguments prepared => ?_)
        fun _ _ _ => toldAt_pure ()
      -- The call that is prepared is of the very function whose signature was looked up.
      rw [program_plain] at shown taken
      obtain ⟨own, found⟩ := Context.signature_given shown
      obtain ⟨signature, same, checked⟩ := Context.prepare_ok_iff.mp prepared
      obtain ⟨rfl, typed⟩ := Prod.mk.inj (Option.some.inj (found.symm.trans same))
      obtain rfl := Signature.funcType_injective typed
      obtain ⟨exported, typed⟩ := Context.function?_type found
      rw [Context.perform_settle] at taken
      refine .deallocates owned ⟨deallocator, given, declared, agreed, exported, typed,
        (Prod.mk.inj (Option.some.inj taken)).1, checked⟩ ?_
      simp only [List.append_assoc]
      exact announced.imp (·.append _) (·.append _)
    · exact toldAt_pure ()

/-- An annotated producer whose successes are all marked where they end. -/
def Marks (context : Context) (calls : String → List Value → Store → List Moment)
    (producer : Producer) (annotated : Annotated Buffer) : Prop :=
  ∀ store buffer left, context.perform annotated.program store = some (.ok buffer, left) →
    ∃ inner, annotated.moments context calls store =
      inner ++ [(Mark.obtained producer buffer).at left]

theorem marks_tell (producer : Producer) (buffer : Buffer) :
    Marks context calls producer do
      tell (.obtained producer buffer)
      return buffer := by
  rintro store _ left ⟨⟩
  exact ⟨[], rfl⟩

theorem marks_fail (producer : Producer) (fault : Fault) :
    Marks context calls producer (.fail fault) := by
  rintro store buffer left ⟨⟩

/-- Where what follows marks its successes, the whole does. -/
theorem marks_bind {producer : Producer} {annotated : Annotated α} {next : α → Annotated Buffer}
    (rest : ∀ value, Marks context calls producer (next value)) :
    Marks context calls producer (annotated >>= next) := by
  intro store buffer left performed
  rw [program_bind] at performed
  obtain ⟨value, middle, first, performed⟩ := Context.perform_bind_ok performed
  obtain ⟨inner, ends⟩ := rest value middle buffer left performed
  exact ⟨_, by rw [moments_bind, first, following, ends, ← List.append_assoc]⟩

/-- Every success of a producer is marked. -/
theorem marks_produce (producer : Producer) : Marks context calls producer (produce producer) := by
  cases producer with
  | allocate length => exact marks_bind fun buffer => marks_tell _ buffer
  | readGuestBuffer values => exact marks_bind fun buffer => marks_tell _ buffer
  | copyIn bytes =>
    -- The buffer is handed out once its bytes are written.
    change Marks context calls _ (copyIn bytes)
    unfold copyIn
    split
    · refine marks_bind fun view => marks_bind fun buffer => marks_bind fun written => ?_
      cases written with
      | ok => exact marks_tell _ buffer
      | error fault => exact marks_bind fun _ => marks_fail _ fault
    · exact marks_fail _ _
  | writeOutSlots bytes pointerSlot lengthSlot =>
    change Marks context calls _ (writeOutSlots bytes pointerSlot lengthSlot)
    unfold writeOutSlots
    refine marks_bind fun view => marks_bind fun size => marks_bind fun _ => marks_bind fun _ => ?_
    split
    · exact marks_bind fun _ => marks_bind fun _ => marks_tell _ _
    · exact marks_bind fun buffer => marks_bind fun _ => marks_bind fun _ => marks_tell _ _

theorem toldAt_allocate (told : context.CallsTold calls) (length : UInt32)
    (earlier : List Moment) (store : Store) :
    ToldAt context calls (allocate length) earlier store := by
  -- What the allocator gives has been held against memory and against null.
  refine toldAt_bind (toldAt_own told _ _ _) fun buffer left given => ?_
  rw [program_plain] at given
  obtain ⟨pointer, rfl, nonzero, positive, inside⟩ := Context.allocate_given given
  exact toldAt_bind (toldAt_tell (.allocates nonzero positive inside)) fun _ _ _ => toldAt_pure _

theorem toldAt_readGuestBuffer (told : context.CallsTold calls) (values : List Value)
    (earlier : List Moment) (store : Store) :
    ToldAt context calls (readGuestBuffer values) earlier store := by
  refine toldAt_bind (toldAt_own told _ _ _) fun buffer left given => ?_
  rw [program_plain] at given
  obtain ⟨owner, inside, rfl⟩ := Context.readGuestBuffer_given given
  refine toldAt_bind (toldAt_tell (.obtains nofun inside fun owned => ?_))
    fun _ _ _ => toldAt_pure _
  -- The buffer is the guest's.
  rw [owner] at owned
  cases owned

/-- An operation that gives back what it has allocated is told of. -/
theorem toldAt_close (told : context.CallsTold calls) {buffer : Buffer}
    (owned : buffer.owner = .hostOwned) (allocated : Allocated buffer earlier) :
    ToldAt context calls (close buffer) earlier store :=
  toldAt_bind (toldAt_tell (.closing owned allocated)) fun _ _ _ =>
    toldAt_release told (.inr (happened_last earlier ((Mark.closing buffer).at store)))

theorem toldAt_closeAfterFailure (told : context.CallsTold calls) {buffer : Buffer}
    (owned : buffer.owner = .hostOwned) (allocated : Allocated buffer earlier) :
    ToldAt context calls (closeAfterFailure buffer) earlier store :=
  toldAt_bind (toldAt_attempt (toldAt_close told owned allocated)) fun _ _ _ => toldAt_pure _

/-- What the allocator has just given has been allocated. -/
theorem allocate_allocated (calls : String → List Value → Store → List Moment)
    (earlier : List Moment) {length : UInt32} {buffer : Buffer} {left : Store}
    (given : context.perform (allocate length).program store = some (.ok buffer, left)) :
    Allocated buffer (earlier ++ (allocate length).moments context calls store) := by
  -- Its success is the last of its moments.
  have marks : Marks context calls (.allocate length) (allocate length) := marks_produce _
  obtain ⟨inner, told⟩ := marks store buffer left given
  rw [told, ← List.append_assoc]
  exact ⟨length, happened_last _ _⟩

theorem toldAt_copyIn (told : context.CallsTold calls) (bytes : List UInt8)
    (earlier : List Moment) (store : Store) :
    ToldAt context calls (copyIn bytes) earlier store := by
  -- The buffer has been allocated before anything is written to it or given back.
  unfold copyIn
  split
  · refine toldAt_bind (toldAt_own told _ _ _) fun view looked resolved => ?_
    rw [program_plain] at resolved
    obtain ⟨sees, rfl, -⟩ := Context.resolve_ok resolved
    refine toldAt_bind (toldAt_allocate told _ _ _) fun buffer placed given => ?_
    have allocated := allocate_allocated calls
      (earlier ++ (plain .own View.resolve).moments context calls store) given
    rw [program_allocate] at given
    obtain ⟨pointer, rfl, _, _, inside⟩ := Context.allocate_given given
    refine toldAt_bind (toldAt_attempt (toldAt_own told _ _ _)) fun written left wrote => ?_
    rw [program_attempt, program_plain] at wrote
    have size := Context.write_size sees (Context.perform_attempt_ok wrote)
    cases written with
    | ok =>
      -- It lies inside the memory that the allocator left, whose size the write has kept.
      refine toldAt_bind (toldAt_tell (.obtains nofun ?_ fun _ => allocated.append _))
        fun _ _ _ => toldAt_pure _
      rw [Buffer.Inside, size]
      exact inside
    | error fault =>
      exact toldAt_bind (toldAt_closeAfterFailure told rfl (allocated.append _))
        fun _ _ _ => toldAt_fail fault
  · exact toldAt_fail _

/-- What has just been copied in has been allocated. -/
theorem copyIn_allocated (told : context.CallsTold calls) (earlier : List Moment)
    {bytes : List UInt8} {buffer : Buffer} {left : Store}
    (given : context.perform (copyIn bytes).program store = some (.ok buffer, left)) :
    Allocated buffer (earlier ++ (copyIn bytes).moments context calls store) := by
  -- The mark at the end says where a buffer that the host owns is from.
  have marks : Marks context calls (.copyIn bytes) (copyIn bytes) := marks_produce _
  obtain ⟨inner, ended⟩ := marks store buffer left given
  obtain ⟨last, timeline, _⟩ := toldAt_copyIn told bytes earlier store
  rw [ended] at timeline ⊢
  rw [program_copyIn] at given
  rcases (timeline.occurs.obtained rfl).2 with ⟨_, _, other, _⟩ | ⟨_, allocated⟩
  · cases other
  · rw [← List.append_assoc]
    exact (allocated (Context.copyIn_given given).1).append _

theorem toldAt_writeOutSlots (told : context.CallsTold calls) (bytes : List UInt8)
    (pointerSlot lengthSlot : UInt32) (earlier : List Moment) (store : Store) :
    ToldAt context calls (writeOutSlots bytes pointerSlot lengthSlot) earlier store := by
  unfold writeOutSlots
  refine toldAt_bind (toldAt_own told _ _ _) fun view looked resolved => ?_
  rw [program_plain] at resolved
  obtain ⟨sees, rfl, -⟩ := Context.resolve_ok resolved
  refine toldAt_bind (toldAt_own told _ _ _) fun size _ _ =>
    toldAt_bind (toldAt_own told _ _ _) fun _ _ _ =>
      toldAt_bind (toldAt_own told _ _ _) fun _ _ _ => ?_
  split
  · -- Nothing is at address zero, and it is the guest's.
    refine toldAt_bind (toldAt_own told _ _ _) fun _ _ _ =>
      toldAt_bind (toldAt_own told _ _ _) fun _ _ _ =>
        toldAt_bind (toldAt_tell (.obtains nofun (Nat.zero_le _) nofun)) fun _ _ _ => toldAt_pure _
  · refine toldAt_bind (toldAt_copyIn told _ _ _) fun buffer placed given => ?_
    rw [program_copyIn] at given
    refine toldAt_bind (toldAt_own told _ _ _) fun _ middle first =>
      toldAt_bind (toldAt_own told _ _ _) fun _ left second => ?_
    rw [program_plain] at first second
    refine toldAt_bind (toldAt_tell (.obtains nofun ?_ nofun)) fun _ _ _ => toldAt_pure _
    -- The two words are written into memory as the payload left it.
    rw [Buffer.Inside, Context.write_size sees second, Context.write_size sees first]
    exact (Context.copyIn_given given).2

theorem toldAt_produce (told : context.CallsTold calls) (producer : Producer)
    (earlier : List Moment) (store : Store) :
    ToldAt context calls (produce producer) earlier store := by
  cases producer with
  | allocate length => exact toldAt_allocate told length earlier store
  | copyIn bytes => exact toldAt_copyIn told bytes earlier store
  | readGuestBuffer values => exact toldAt_readGuestBuffer told values earlier store
  | writeOutSlots bytes pointerSlot lengthSlot =>
    exact toldAt_writeOutSlots told bytes pointerSlot lengthSlot earlier store

/-- A scope is told of if its body is: it gives back the very buffer that it has copied in. -/
theorem toldAt_withGuestBytes (told : context.CallsTold calls) (bytes : List UInt8)
    {body : Buffer → Annotated α}
    (bodies : ∀ buffer earlier store, ToldAt context calls (body buffer) earlier store)
    (earlier : List Moment) (store : Store) :
    ToldAt context calls (withGuestBytes bytes body) earlier store := by
  unfold withGuestBytes
  split
  · exact bodies _ _ _
  · refine toldAt_bind (toldAt_copyIn told _ _ _) fun buffer placed given => ?_
    have allocated := copyIn_allocated told earlier given
    rw [program_copyIn] at given
    have owned := (Context.copyIn_given given).1
    refine toldAt_bind (toldAt_own told _ _ _) fun _ _ _ =>
      toldAt_bind (toldAt_attempt (bodies _ _ _)) fun outcome _ _ =>
        toldAt_bind (toldAt_own told _ _ _) fun _ _ _ => ?_
    -- The buffer has been allocated before the body ran, so it has been after that.
    cases outcome with
    | ok value =>
      exact toldAt_bind (toldAt_close told owned (((allocated.append _).append _).append _))
        fun _ _ _ => toldAt_pure _
    | error fault =>
      exact toldAt_bind
        (toldAt_closeAfterFailure told owned (((allocated.append _).append _).append _))
        fun _ _ _ => toldAt_fail _

/-- Every honest program is told of. -/
theorem Honest.toldAt (told : context.CallsTold calls) {annotated : Annotated α}
    (honest : Honest annotated) (earlier : List Moment) (store : Store) :
    ToldAt context calls annotated earlier store := by
  -- By induction on how the program is built, which need not be how it runs.
  induction honest generalizing earlier store with
  | plain program => exact toldAt_own told program earlier store
  | bind _ _ first rest => exact toldAt_bind (first _ _) fun value left _ => rest value _ left
  | attempt _ ih => exact toldAt_attempt (ih _ _)
  | produce producer => exact toldAt_produce told producer earlier store
  | release buffer =>
    exact toldAt_bind (toldAt_tell .releasing) fun _ _ _ =>
      toldAt_release told (.inl (happened_last earlier ((Mark.releasing buffer).at store)))
  | scope bytes _ bodies => exact toldAt_withGuestBytes told bytes bodies earlier store

end Annotated

end GuestBoundary
