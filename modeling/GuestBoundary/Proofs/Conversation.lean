import GuestBoundary.Capability
import GuestBoundary.Proofs.CallingContext
import GuestBoundary.Proofs.Calls
import GuestBoundary.Proofs.CopyIn
import GuestBoundary.Proofs.OutSlots

/-! Conversations: a host function that answers a guest reads what it is asked before anything can change
it, and from then on it is a delivery of the answer through two slots. -/

namespace GuestBoundary

variable {α β : Type}

namespace Capability

/-- The arguments of a conversation are the words of a span and of two slots. -/
theorem words_conversation (span : Span) (pointerSlot lengthSlot : UInt32) :
    let arguments := span.pair ++ [.i32 pointerSlot, .i32 lengthSlot]
    spanOf arguments = span ∧ words arguments 2 = pointerSlot ∧ words arguments 3 = lengthSlot := by
  simp [spanOf, words, Span.pair, Value.low, Value.bits]

/-- A conversation reads the request, and then delivers the answer. -/
theorem run_talkPlain (respond : String → String) (space : String) (span : Span)
    (pointerSlot lengthSlot : UInt32) :
    (talkPlain respond space).run (span.pair ++ [.i32 pointerSlot, .i32 lengthSlot]) =
      Program.readString span >>= fun request =>
        Program.writeOutSlots (Utf8.encode (respond request)) pointerSlot lengthSlot >>= fun _ =>
          pure [] := by
  obtain ⟨spanned, pointed, counted⟩ := words_conversation span pointerSlot lengthSlot
  refine (HostFunction.run_answer rfl rfl).trans ?_
  rw [spanned, pointed, counted, talk]
  simp only [bind_assoc, pure_bind]

/-- A fixed text is delivered as it is. -/
theorem run_getString (text space : String) (pointerSlot lengthSlot : UInt32) :
    (getString text space).run [.i32 pointerSlot, .i32 lengthSlot] =
      Program.writeOutSlots (Utf8.encode text) pointerSlot lengthSlot >>= fun _ => pure [] := by
  refine (HostFunction.run_answer rfl rfl).trans ?_
  simp [words, Value.low, Value.bits]

end Capability

/-- Reading a text calls nothing. -/
theorem Program.quiet_readString (span : Span) : (readString span).Quiet :=
  asks_bind (asks_bind quiet_resolve fun _ => ⟨nofun, asks_settle⟩) fun _ => trivial

/-- What the guest finds in memory after a delivery of bytes through two slots: the slots hold a span of as
many bytes, which is all zeros for none, and the span holds the bytes, as long as the slots and the span are
apart. -/
structure Region.Finds (memory : Region) (bytes : List UInt8) (pointerSlot lengthSlot : UInt32)
    (span : Span) : Prop where
  counted : span.length.toNat = bytes.length
  zeros : bytes = [] → span = ⟨0, 0⟩
  readBack :
    Apart pointerSlot.toNat 4 lengthSlot.toNat 4 →
      Apart span.pointer.toNat bytes.length pointerSlot.toNat 4 →
      Apart span.pointer.toNat bytes.length lengthSlot.toNat 4 →
      memory.readWord pointerSlot = .ok span.pointer ∧ memory.readWord lengthSlot = .ok span.length ∧
        memory.read span.pointer span.length = .ok bytes

open Program

namespace Context

variable {context : Context} {store : Store}

/-- Whatever holds of no entries and of those that follow a first part that calls nothing, holds of the
entries of the whole. -/
theorem entries_bind_of_quiet {holds : List (String × List Value) → Prop} {program : Program α}
    {next : α → Program β} (quiet : program.Quiet) (none : holds [])
    (rest : ∀ value left, holds (context.entries (next value) left)) :
    holds (context.entries (program >>= next) store) := by
  rw [entries_bind, entries_quiet quiet, List.nil_append]
  split
  · exact rest _ _
  · exact none

/-- The entries of a program are none, or the allocator alone, with a number of bytes. -/
def AllocatorAlone (context : Context) (count : Nat) (entries : List (String × List Value)) : Prop :=
  entries = [] ∨ ∃ entry, context.prepare context.linked.conventions.allocExport
    [.i32 (UInt32.ofNat count)] = .ok entry ∧ entries = [entry]

/-- Where the allocator is not the deallocator under another name, the allocator alone is no deallocator. -/
theorem AllocatorAlone.spares {count : Nat} {entries : List (String × List Value)}
    (alone : context.AllocatorAlone count entries)
    (spares : context.Spares context.linked.conventions.allocExport) :
    ∀ entry ∈ entries, ¬ context.Frees entry.1 := by
  intro entry member
  rcases alone with rfl | ⟨only, prepared, rfl⟩
  · cases member
  · -- What is entered is what the name of the allocator leads to.
    cases List.mem_singleton.mp member
    obtain ⟨type, found⟩ := prepare_ok prepared
    exact spares _ type found

/-- Copying in enters the allocator alone, and nothing for bytes that are too many for a word. -/
theorem allocatorAlone_copyIn (bytes : List UInt8) (store : Store) :
    context.AllocatorAlone bytes.length (context.entries (copyIn bytes) store) := by
  by_cases short : bytes.length < UInt32.size
  · exact entries_copyIn_le short
  · rw [copyIn, if_neg short]
    exact .inl rfl

/-- A delivery enters the allocator alone. -/
theorem allocatorAlone_writeOutSlots (bytes : List UInt8) (pointerSlot lengthSlot : UInt32)
    (store : Store) :
    context.AllocatorAlone bytes.length
      (context.entries (writeOutSlots bytes pointerSlot lengthSlot) store) := by
  have none : context.AllocatorAlone bytes.length [] := .inl rfl
  have written (view : View) (offset word : UInt32) : (view.writeWord offset word).Quiet :=
    quiet_write view offset (wordBytes word)
  -- The four looks that come before anything is written call nothing.
  refine entries_bind_of_quiet quiet_resolve none fun view left =>
    entries_bind_of_quiet (quiet_size view) none fun size left =>
    entries_bind_of_quiet (asks_settle _) none fun _ left =>
    entries_bind_of_quiet (asks_settle _) none fun _ left => ?_
  split
  · -- For no bytes there is nothing to allocate.
    exact entries_bind_of_quiet (written _ _ _) none fun _ left =>
      entries_bind_of_quiet (written _ _ _) none fun _ left => none
  · -- After the bytes have been copied in, only the two words are written.
    have copied : context.entries (copyIn bytes >>= fun buffer => do
        view.writeWord pointerSlot buffer.pointer
        view.writeWord lengthSlot buffer.length
        return buffer.intoGuest) left = context.entries (copyIn bytes) left :=
      entries_bind_last fun buffer =>
        asks_bind (written _ _ _) fun _ => asks_bind (written _ _ _) fun _ => trivial
    rw [copied]
    exact allocatorAlone_copyIn bytes left

/-- Bytes that are too many for a word are not delivered. -/
theorem writeOutSlots_ok_short (sees : context.SeesMemory) {bytes : List UInt8}
    {pointerSlot lengthSlot : UInt32} {buffer : Buffer} {left : Store}
    (pointerInside : pointerSlot.toNat + 4 ≤ store.memory.size)
    (lengthInside : lengthSlot.toNat + 4 ≤ store.memory.size)
    (delivered : context.perform (writeOutSlots bytes pointerSlot lengthSlot) store =
      some (.ok buffer, left)) : bytes.length < UInt32.size := by
  -- Copying them in is the first thing after the checks, and it fails.
  by_contra long
  have nonempty : bytes ≠ [] := by
    rintro rfl
    exact long (by decide)
  have pointerRange : pointerSlot.toNat + (4 : UInt32).toNat ≤ store.memory.size := pointerInside
  have lengthRange : lengthSlot.toNat + (4 : UInt32).toNat ≤ store.memory.size := lengthInside
  simp only [writeOutSlots, perform_bind, perform_resolve sees, perform_size sees, perform_settle,
    Region.checkRange_ok pointerRange, Region.checkRange_ok lengthRange, if_neg nonempty, copyIn,
    if_neg long, perform_fail] at delivered
  cases delivered

/-- After a delivery the guest finds the bytes through the slots. -/
theorem writeOutSlots_found (sees : context.SeesMemory) (grows : context.NeverShrinks)
    {bytes : List UInt8} {pointerSlot lengthSlot : UInt32} {buffer : Buffer} {left : Store}
    (delivered : context.perform (writeOutSlots bytes pointerSlot lengthSlot) store =
      some (.ok buffer, left)) : left.memory.Finds bytes pointerSlot lengthSlot buffer.span := by
  -- A slot that is out of bounds would have been refused.
  have inside : pointerSlot.toNat + 4 ≤ store.memory.size ∧
      lengthSlot.toNat + 4 ≤ store.memory.size := by
    by_contra outside
    have refusable : ¬ context.SeesMemory ∨ store.memory.size < pointerSlot.toNat + 4 ∨
        store.memory.size < lengthSlot.toNat + 4 := .inr (by omega)
    obtain ⟨fault, refused⟩ := perform_writeOutSlots_refused bytes refusable
    rw [refused context.call] at delivered
    cases delivered
  obtain ⟨pointerInside, lengthInside⟩ := inside
  have short := writeOutSlots_ok_short sees pointerInside lengthInside delivered
  by_cases empty : bytes = []
  · -- The two words are all that is written, and a span of no bytes is always inside.
    subst empty
    rw [perform_writeOutSlots_nil sees pointerInside lengthInside] at delivered
    cases delivered
    exact ⟨rfl, fun _ => rfl, Region.read_deliver pointerInside lengthInside (by simp) rfl⟩
  · rw [perform_writeOutSlots_cons sees grows short empty pointerInside lengthInside] at delivered
    split at delivered
    · cases delivered
    · rename_i given allocated answered
      cases delivered
      obtain ⟨_, counted, spanInside, _⟩ := allocate_bytes sees short answered
      -- The slots were checked against a memory that has not shrunk since.
      have grown : store.memory.size ≤ allocated.memory.size := grows.keeps _ store _ _ answered
      rw [← counted] at spanInside
      exact ⟨counted, fun none => absurd none empty,
        Region.read_deliver (by omega) (by omega) spanInside counted⟩
    · cases delivered

/-- A text is read as memory holds it, if its span lies there. -/
theorem perform_readString (sees : context.SeesMemory) (span : Span) (store : Store) :
    context.perform (readString span) store =
      some ((store.memory.read span.pointer span.length).map Utf8.decode, store) := by
  simp only [readString, readBytes, perform_bind, perform_resolve sees, perform_read sees]
  cases store.memory.read span.pointer span.length <;> rfl

/-- A program is a delivery of bytes through two slots from a store on, and then answers nothing. -/
structure Delivers (context : Context) (program : Program (List Value)) (bytes : List UInt8)
    (pointerSlot lengthSlot : UInt32) (store : Store) : Prop where
  /-- It ends as the delivery does, and leaves what that leaves. -/
  ends :
    context.perform program store =
      match context.perform (writeOutSlots bytes pointerSlot lengthSlot) store with
      | none => none
      | some (.ok _, left) => some (.ok [], left)
      | some (.error fault, left) => some (.error fault, left)
  /-- It enters the allocator at most, once and with the number of the bytes. -/
  enters : context.AllocatorAlone bytes.length (context.entries program store)
  /-- It never enters the deallocator, unless that is the allocator under another name. -/
  spares :
    context.Spares context.linked.conventions.allocExport →
      ∀ entry ∈ context.entries program store, ¬ context.Frees entry.1
  /-- It answers nothing, and the guest finds the bytes. -/
  found :
    ∀ values left, context.perform program store = some (.ok values, left) →
      values = [] ∧ ∃ span, left.memory.Finds bytes pointerSlot lengthSlot span

/-- A delivery that is followed by an empty answer delivers. -/
theorem delivers_writeOutSlots (sees : context.SeesMemory) (grows : context.NeverShrinks)
    (bytes : List UInt8) (pointerSlot lengthSlot : UInt32) (store : Store) :
    context.Delivers (writeOutSlots bytes pointerSlot lengthSlot >>= fun _ => pure []) bytes
      pointerSlot lengthSlot store := by
  have entered : context.entries
      (writeOutSlots bytes pointerSlot lengthSlot >>= fun _ => pure ([] : List Value)) store =
        context.entries (writeOutSlots bytes pointerSlot lengthSlot) store := by
    refine entries_bind_last fun _ => ?_
    trivial
  have alone : context.AllocatorAlone bytes.length (context.entries
      (writeOutSlots bytes pointerSlot lengthSlot >>= fun _ => pure ([] : List Value)) store) := by
    rw [entered]
    exact allocatorAlone_writeOutSlots bytes pointerSlot lengthSlot store
  refine ⟨?_, alone, alone.spares, fun values left performed => ?_⟩
  · -- The answer takes the place of the buffer, and a fault passes.
    rw [perform_bind]
    rcases context.perform (writeOutSlots bytes pointerSlot lengthSlot) store with
      _ | ⟨fault | buffer, left⟩
    · rfl
    · rfl
    · rfl
  · -- There is an answer only after a delivery that has succeeded.
    rw [perform_bind] at performed
    split at performed
    · cases performed
    · rename_i buffer after delivered
      cases performed
      exact ⟨rfl, buffer.span, writeOutSlots_found sees grows delivered⟩
    · cases performed

/-- What comes after a first part that calls nothing and leaves the store alone delivers for the whole. -/
theorem Delivers.after {bytes : List UInt8} {pointerSlot lengthSlot : UInt32} {first : Program α}
    {next : α → Program (List Value)} {value : α} (quiet : first.Quiet)
    (ran : context.perform first store = some (.ok value, store))
    (delivers : context.Delivers (next value) bytes pointerSlot lengthSlot store) :
    context.Delivers (first >>= next) bytes pointerSlot lengthSlot store := by
  have performed : context.perform (first >>= next) store = context.perform (next value) store := by
    rw [perform_bind, ran]
  have entered : context.entries (first >>= next) store = context.entries (next value) store :=
    entries_bind_quiet quiet ran
  exact ⟨performed ▸ delivers.ends, entered ▸ delivers.enters, entered ▸ delivers.spares,
    performed ▸ delivers.found⟩

/-- A conversation whose request lies in memory delivers the answer to what memory held. -/
theorem delivers_talkPlain (sees : context.SeesMemory) (grows : context.NeverShrinks)
    (respond : String → String) (space : String) {span : Span} (pointerSlot lengthSlot : UInt32)
    (inside : span.pointer.toNat + span.length.toNat ≤ store.memory.size) :
    context.Delivers
      ((Capability.talkPlain respond space).run (span.pair ++ [.i32 pointerSlot, .i32 lengthSlot]))
      (Utf8.encode (respond (Utf8.decode
        (store.memory.bytesAt span.pointer.toNat span.length.toNat))))
      pointerSlot lengthSlot store := by
  -- The request has been read before the delivery starts.
  rw [Capability.run_talkPlain]
  have read : context.perform (readString span) store = some (.ok (Utf8.decode
      (store.memory.bytesAt span.pointer.toNat span.length.toNat)), store) := by
    rw [perform_readString sees, Region.read_inside inside]
    rfl
  exact .after (quiet_readString span) read
    (delivers_writeOutSlots sees grows _ pointerSlot lengthSlot store)

/-- A conversation whose request reaches outside memory fails before anything is entered or answered. -/
theorem talkPlain_outside (sees : context.SeesMemory) (respond : String → String) (space : String)
    {span : Span} (pointerSlot lengthSlot : UInt32)
    (outside : store.memory.size < span.pointer.toNat + span.length.toNat) :
    let program := (Capability.talkPlain respond space).run
      (span.pair ++ [.i32 pointerSlot, .i32 lengthSlot])
    context.entries program store = [] ∧ context.perform program store =
      some (.error (.outOfBounds span.pointer.toNat span.length.toNat store.memory.size), store) := by
  have refused : context.perform (readString span) store = some
      (.error (.outOfBounds span.pointer.toNat span.length.toNat store.memory.size), store) := by
    rw [perform_readString sees, Region.read_outside outside]
    rfl
  simp only [Capability.run_talkPlain, entries_bind, entries_quiet (quiet_readString span),
    perform_bind, refused, List.append_nil, and_self]

end Context

/--
A conversation is a delivery of the answer to what was asked, whatever happens to the request meanwhile.

Let code of a linked guest call the host function that answers texts, with any responder, for any span and
any two slots, on any store. If the span reaches outside memory, the call fails as out of bounds, nothing is
entered and the store stays as it is, whatever the responder and the functions of the instance would do.
Otherwise the call is the delivery of the answer to the text that memory held in the span when the call
began: it ends as the delivery does, leaves what that leaves, enters the allocator at most and never the
deallocator, and after a success the guest finds exactly the answer through its slots. The host function
that serves a fixed text is the delivery of that text.
-/
theorem Linked.answers_delivered {settings : Settings} {registry : Registry} {guest : Wasm.Module}
    {linked : Linked} (links : Linked.link settings registry guest = .ok linked)
    (patience depth : Nat) (id : String) (pointerSlot lengthSlot : UInt32) (store : Store) :
    (∀ respond space, linked.hosts.lookup id = some (Capability.talkPlain respond space) →
      ∀ span : Span,
        let host := Capability.talkPlain respond space
        let context := linked.hostContext patience depth .guest host
        let arguments := span.pair ++ [.i32 pointerSlot, .i32 lengthSlot]
        linked.call patience (depth + 1) .guest id arguments =
          Run.carry (context.perform (host.run arguments)) ∧
        (store.memory.size < span.pointer.toNat + span.length.toNat →
          context.entries (host.run arguments) store = [] ∧
          ∀ other call, ({ context with call } : Context).perform
              ((Capability.talkPlain other space).run arguments) store =
            some (.error (.outOfBounds span.pointer.toNat span.length.toNat store.memory.size),
              store)) ∧
        (span.pointer.toNat + span.length.toNat ≤ store.memory.size →
          context.Delivers (host.run arguments)
            (Utf8.encode (respond (Utf8.decode
              (store.memory.bytesAt span.pointer.toNat span.length.toNat))))
            pointerSlot lengthSlot store)) ∧
    ∀ text space, linked.hosts.lookup id = some (Capability.getString text space) →
      let host := Capability.getString text space
      let context := linked.hostContext patience depth .guest host
      let arguments := [.i32 pointerSlot, .i32 lengthSlot]
      linked.call patience (depth + 1) .guest id arguments =
        Run.carry (context.perform (host.run arguments)) ∧
      context.Delivers (host.run arguments) (Utf8.encode text) pointerSlot lengthSlot store := by
  have sees (host : HostFunction) : (linked.hostContext patience depth .guest host).SeesMemory :=
    context_seesMemory links patience depth host.name
  have grows (host : HostFunction) : (linked.hostContext patience depth .guest host).NeverShrinks :=
    linked.context_neverShrinks patience depth true host.name
  refine ⟨fun respond space bound span => ?_, fun text space bound => ?_⟩
  · intro host context arguments
    refine ⟨call_host bound .guest arguments, fun outside => ?_,
      Context.delivers_talkPlain (sees host) (grows host) respond space pointerSlot lengthSlot⟩
    refine ⟨(Context.talkPlain_outside (sees host) respond space pointerSlot lengthSlot outside).1,
      fun other call => ?_⟩
    -- Nothing is entered, so it does not matter what could have been.
    obtain ⟨unentered, failed⟩ :=
      Context.talkPlain_outside (sees host) other space pointerSlot lengthSlot outside
    exact (Context.perform_unentered unentered call).trans failed
  · -- There is no request, so the delivery is all.
    refine ⟨call_host bound .guest _, ?_⟩
    rw [Capability.run_getString]
    exact Context.delivers_writeOutSlots (sees _) (grows _) _ pointerSlot lengthSlot store

namespace Sample

/-- The small guest, with the two host functions that answer in place of its own one. -/
def asker : Wasm.Module :=
  { guest with
    imports := [⟨"env", "host_talk", .function "talk" (Signature.words 4 0).funcType⟩,
      ⟨"env", "host_get_string", .function "fetch" (Signature.words 2 0).funcType⟩]
    functions := [allocator, deallocator]
    exports := [⟨"memory", .memory 0⟩, ⟨"malloc", .function "bump"⟩, ⟨"free", .function "wipe"⟩] }

/-- A host function that says everything twice. -/
def twice : HostFunction := Capability.talkPlain (fun text => text ++ text) "env"

/-- A host function that has nothing to say. -/
def silent : HostFunction := Capability.getString "" "env"

/-- The guest with both of them bound. -/
def conversing : Linked := ⟨asker, [("talk", twice), ("fetch", silent)], .default, 1, 256⟩

/-- Its store with two letters where the allocator puts its first allocation. -/
def greeted : Store :=
  let store := Instance.initialStore .default conversing
  { store with memory := store.memory.store 16 [104, 105] }

end Sample

/-- The answer is written over the request, and is still that to the two letters. A request that reaches
outside memory fails, and nothing to say is two zeros. -/
theorem Linked.answers_delivered_twice :
    let context := Sample.conversing.hostContext 16 15 .guest Sample.twice
    let request := [.i32 16, .i32 2, .i32 0, .i32 4]
    (∀ other call, ({ context with call } : Context).perform
        ((Capability.talkPlain other "env").run [.i32 65535, .i32 2, .i32 0, .i32 4]) Sample.greeted =
      some (.error (.outOfBounds 65535 2 65536), Sample.greeted)) ∧
    context.Delivers (Sample.twice.run request) [104, 105, 104, 105] 0 4 Sample.greeted ∧
    (∃ left, Sample.conversing.call 16 16 .guest "talk" request Sample.greeted = some (.ok [], left) ∧
      left.memory.bytesAt 0 8 = [16, 0, 0, 0, 4, 0, 0, 0] ∧
      left.memory.bytesAt 16 4 = [104, 105, 104, 105]) ∧
    (Sample.conversing.hostContext 16 15 .guest Sample.silent).Delivers (Sample.silent.run [.i32 0, .i32 4])
      [] 0 4 Sample.greeted := by
  let registry : Registry := ⟨[Sample.twice, Sample.silent], List.pairwise_pair.mpr fun same =>
    absurd same.2 (by decide)⟩
  have links : Linked.link .default registry Sample.asker = .ok Sample.conversing := rfl
  obtain ⟨talks, -⟩ := Linked.answers_delivered links 16 15 "talk" 0 4 Sample.greeted
  obtain ⟨-, serves⟩ := Linked.answers_delivered links 16 15 "fetch" 0 4 Sample.greeted
  obtain ⟨-, outside, -⟩ := talks _ "env" rfl ⟨65535, 2⟩
  obtain ⟨-, -, inside⟩ := talks _ "env" rfl ⟨16, 2⟩
  exact ⟨(outside (by decide)).2, inside (by decide), ⟨_, rfl, rfl, rfl⟩, (serves "" "env" rfl).2⟩

end GuestBoundary
