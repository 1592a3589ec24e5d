import GuestBoundary.Proofs.RegionAccess
import GuestBoundary.Proofs.Spellings
import GuestBoundary.Proofs.Text.Decoding

/-! Text at the boundary: what hosts read, log, answer and are answered is decoded from the bytes that
memory holds, and a text that has been written reads back. -/

namespace GuestBoundary

open Program

/-- The text of the bytes that a program ends with. -/
def Context.decoded (ended : Option (Except Fault (List UInt8) × Store)) :
    Option (Except Fault String × Store) :=
  ended.map fun (outcome, left) => (outcome.map Utf8.decode, left)

namespace Context

variable {context : Context} {store : Store} {span : Span}

/-- A program that decodes what another gives ends as that does, with the text of its bytes. -/
theorem perform_decode (context : Context) (program : Program (List UInt8)) (store : Store) :
    context.perform (program >>= fun bytes => pure (Utf8.decode bytes)) store =
      decoded (context.perform program store) := by
  rw [perform_bind]
  rcases context.perform program store with _ | ⟨fault | bytes, left⟩ <;> rfl

/-- Bytes are read as memory holds them, if their span lies there. -/
theorem perform_readBytes (sees : context.SeesMemory) (span : Span) (store : Store) :
    context.perform (readBytes span) store =
      some (store.memory.read span.pointer span.length, store) := by
  rw [readBytes, perform_bind, perform_resolve sees]
  exact perform_read sees ..

/-- A text that has been written in bounds reads back. -/
theorem readString_written (sees : context.SeesMemory) {text : String} {offset : UInt32}
    (fits : store.memory.Fits offset (Utf8.encode text)) :
    ∃ left, context.perform (context.view.write offset (Utf8.encode text)) store = some (.ok (), left) ∧
      context.perform (readString ⟨offset, .ofNat (Utf8.encode text).length⟩) left =
        some (.ok text, left) := by
  refine ⟨{ store with memory := store.memory.store offset.toNat (Utf8.encode text) }, ?_, ?_⟩
  · rw [perform_write sees, Region.write_fits fits]
  · rw [perform_readString sees, (Region.written_store fits).readBack]
    exact congrArg (fun text => some (Except.ok text, _)) (Utf8.decode_encode text)

/-- A text without the character for broken sequences has been read from its own bytes. -/
theorem read_of_unbroken (sees : context.SeesMemory) {text : String}
    (given : context.perform (readString span) store = some (.ok text, store))
    (unbroken : Utf8.replacement ∉ text.toList) :
    store.memory.read span.pointer span.length = .ok (Utf8.encode text) := by
  rw [perform_readString sees] at given
  cases read : store.memory.read span.pointer span.length with
  | error fault =>
    rw [read] at given
    cases given
  | ok bytes =>
    rw [read] at given
    cases given
    rw [Utf8.encode_decode unbroken]

/-- A request is the text of the bytes of its span, and the answer to it is delivered. -/
theorem perform_talk (sees : context.SeesMemory) (respond : String → String) (span : Span)
    (pointerSlot lengthSlot : UInt32) (store : Store) :
    context.perform (Capability.talk respond span pointerSlot lengthSlot) store =
      match store.memory.read span.pointer span.length with
      | .ok bytes =>
        context.perform
          (writeOutSlots (Utf8.encode (respond (Utf8.decode bytes))) pointerSlot lengthSlot >>= fun _ =>
            pure ()) store
      | .error fault => some (.error fault, store) := by
  rw [Capability.talk, perform_bind, perform_readString sees]
  cases store.memory.read span.pointer span.length <;> rfl

end Context

/-- The capabilities that log a text, with what they answer. -/
inductive Capability.LogsText : HostFunction → List Value → Prop
  | plain (space : String) : LogsText (logString space) []
  | status (space : String) : LogsText (printString space) statusOk

/-- The capabilities that have a text answered, with what they answer themselves. -/
inductive Capability.Talks (respond : String → String) : HostFunction → List Value → Prop
  | plain (space : String) : Talks respond (talkPlain respond space) []
  | status (space : String) : Talks respond (talkStatus respond space) statusOk

namespace Linked

/-- A delivery of bytes through two slots, after which a host function answers a fixed list. -/
def delivery (context : Context) (bytes : List UInt8) (pointerSlot lengthSlot : UInt32)
    (answer : List Value) (store : Store) : Option (Except Failure (List Value) × Store) :=
  match context.perform (writeOutSlots bytes pointerSlot lengthSlot) store with
  | none => none
  | some (.ok _, left) => some (.ok answer, left)
  | some (.error fault, left) => some (.error (.raised fault), left)

variable {settings : Settings} {registry : Registry} {guest : Wasm.Module} {linked : Linked}
  {id : String} {host : HostFunction} {answer : List Value}

/-- A guest that has a text logged adds the text of the bytes of its span to the log. -/
theorem call_logsText (links : Linked.link settings registry guest = .ok linked)
    (bound : linked.hosts.lookup id = some host) (logs : Capability.LogsText host answer)
    (patience depth : Nat) (span : Span) (store : Store) :
    linked.call patience (depth + 1) .guest id span.pair store =
      match store.memory.read span.pointer span.length with
      | .ok bytes =>
        some (.ok answer, { store with log := store.log.add ⟨host.name, Utf8.decode bytes⟩ })
      | .error fault => some (.error (.raised fault), store) := by
  have sees : (linked.hostContext patience depth .guest host).SeesMemory :=
    context_seesMemory links patience depth host.name
  have work : host.body span.pair =
      Capability.logText (Capability.spanOf span.pair) >>= fun _ => pure answer := by
    cases logs <;> rfl
  have accepted : host.signature.acceptsResults answer = true := by
    cases logs <;> rfl
  rw [call_answer bound work accepted, Capability.spanOf_pair, Context.perform_logText,
    Context.perform_readString sees]
  cases store.memory.read span.pointer span.length <;> rfl

/-- A guest that asks for an answer is answered as to the text of the bytes of its span. -/
theorem call_talks (links : Linked.link settings registry guest = .ok linked)
    (bound : linked.hosts.lookup id = some host) {respond : String → String}
    (talks : Capability.Talks respond host answer) (patience depth : Nat) (span : Span)
    (pointerSlot lengthSlot : UInt32) (store : Store) :
    linked.call patience (depth + 1) .guest id (span.pair ++ [.i32 pointerSlot, .i32 lengthSlot]) store =
      match store.memory.read span.pointer span.length with
      | .ok bytes =>
        delivery (linked.hostContext patience depth .guest host)
          (Utf8.encode (respond (Utf8.decode bytes))) pointerSlot lengthSlot answer store
      | .error fault => some (.error (.raised fault), store) := by
  have sees : (linked.hostContext patience depth .guest host).SeesMemory :=
    context_seesMemory links patience depth host.name
  have work (arguments : List Value) : host.body arguments =
      Capability.talk respond (Capability.spanOf arguments) (Capability.words arguments 2)
        (Capability.words arguments 3) >>= fun _ => pure answer := by
    cases talks <;> rfl
  have accepted : host.signature.acceptsResults answer = true := by
    cases talks <;> rfl
  obtain ⟨spanned, pointed, counted⟩ := Capability.words_conversation span pointerSlot lengthSlot
  rw [call_answer bound (work _) accepted, spanned, pointed, counted, Context.perform_talk sees]
  cases store.memory.read span.pointer span.length with
  | error fault => rfl
  | ok bytes =>
    -- The answer of the host function takes the place of the buffer that is delivered.
    simp only [delivery, Context.perform_bind]
    rcases (linked.hostContext patience depth .guest host).perform (writeOutSlots
      (Utf8.encode (respond (Utf8.decode bytes))) pointerSlot lengthSlot) store with
      _ | ⟨fault | buffer, left⟩ <;> rfl

end Linked

/--
Text crosses the boundary faithfully.

Decoding reads bytes character by character and replaces each longest broken sequence by one character; the
text of any bytes, encoded, decodes to itself. In every context a text is read exactly if bytes are, and is
what they decode to, and so is the answer to a call with a text. Where memory is seen, the bytes are those
of the span: a text that has been written in bounds reads back, a text that other bytes follow comes before
what they decode to, and a text without the character for broken sequences is read from its own bytes only.
The texts that a guest has logged, and those it has answered, are decoded from what memory holds when it
calls.
-/
theorem Linked.text_faithful (span : Span) (store : Store) :
    (∀ bytes, (∀ text, Utf8.decode bytes = text ↔ Utf8.Decodes bytes text.toList) ∧
      Utf8.decode (Utf8.encode (Utf8.decode bytes)) = Utf8.decode bytes) ∧
    (∀ context : Context,
      context.perform (readString span) store =
        Context.decoded (context.perform (readBytes span) store) ∧
      ∀ name text form, context.perform (callWithText name text form) store =
        Context.decoded (context.perform (callWithBytes name (Utf8.encode text) form) store)) ∧
    (∀ context : Context, context.SeesMemory →
      context.perform (readBytes span) store =
        some (store.memory.read span.pointer span.length, store) ∧
      (∀ text offset, store.memory.Fits offset (Utf8.encode text) →
        ∃ left, context.perform (context.view.write offset (Utf8.encode text)) store =
            some (.ok (), left) ∧
          context.perform (readString ⟨offset, .ofNat (Utf8.encode text).length⟩) left =
            some (.ok text, left)) ∧
      (∀ text bytes, store.memory.read span.pointer span.length = .ok (Utf8.encode text ++ bytes) →
        context.perform (readString span) store = some (.ok (text ++ Utf8.decode bytes), store)) ∧
      ∀ text, context.perform (readString span) store = some (.ok text, store) →
        Utf8.replacement ∉ text.toList →
          store.memory.read span.pointer span.length = .ok (Utf8.encode text)) ∧
    ∀ settings registry guest linked, Linked.link settings registry guest = .ok linked →
      ∀ patience depth id host answer, linked.hosts.lookup id = some host →
        (Capability.LogsText host answer →
          linked.call patience (depth + 1) .guest id span.pair store =
            match store.memory.read span.pointer span.length with
            | .ok bytes =>
              some (.ok answer, { store with log := store.log.add ⟨host.name, Utf8.decode bytes⟩ })
            | .error fault => some (.error (.raised fault), store)) ∧
        ∀ respond pointerSlot lengthSlot, Capability.Talks respond host answer →
          linked.call patience (depth + 1) .guest id
              (span.pair ++ [.i32 pointerSlot, .i32 lengthSlot]) store =
            match store.memory.read span.pointer span.length with
            | .ok bytes =>
              delivery (linked.hostContext patience depth .guest host)
                (Utf8.encode (respond (Utf8.decode bytes))) pointerSlot lengthSlot answer store
            | .error fault => some (.error (.raised fault), store) := by
  refine ⟨fun bytes => ⟨fun text => ?_, Utf8.decode_encode _⟩,
    fun context => ⟨context.perform_decode _ store, fun name text form => context.perform_decode _ store⟩,
    fun context sees => ⟨Context.perform_readBytes sees span store,
      fun text offset => Context.readString_written sees, fun text bytes read => ?_,
      fun text => Context.read_of_unbroken sees⟩,
    fun settings registry guest linked links patience depth id host answer bound => ⟨fun logs =>
      call_logsText links bound logs patience depth span store, fun respond pointerSlot lengthSlot talks =>
      call_talks links bound talks patience depth span pointerSlot lengthSlot store⟩⟩
  · -- A text is its characters.
    rw [Utf8.decodes_iff, Utf8.decode, ← String.toList_inj, String.toList_ofList]
  · rw [Context.perform_readString sees, read]
    exact congrArg (fun text => some (Except.ok text, store)) (Utf8.decode_encode_append text bytes)

namespace Sample

/-- The store of the guest with a letter in memory, and the first of the two bytes of another one. -/
def cut : Store := { lettered with memory := lettered.memory.store 17 [0xC3] }

end Sample

/-- The cut letter is read, logged and answered as one broken sequence after the whole one, which is read
from its own byte. Two letters in the last three bytes of memory read back. -/
theorem Linked.text_faithful_cut :
    let context := Sample.bound.hostContext 16 15 .guest (Capability.talkPlain Uppercase.ofText "env")
    (∃ left, context.perform (context.view.write 65533 (Utf8.encode "h\u00e9")) Sample.cut =
        some (.ok (), left) ∧
      context.perform (readString ⟨65533, 3⟩) left = some (.ok "h\u00e9", left)) ∧
    context.perform (readString ⟨16, 2⟩) Sample.cut = some (.ok ("h" ++ Utf8.decode [0xC3]), Sample.cut) ∧
    Sample.cut.memory.read 16 1 = .ok (Utf8.encode "h") ∧
    Sample.bound.call 16 16 .guest "say" [.i32 16, .i32 2] Sample.cut =
      some (.ok [],
        { Sample.cut with log := Sample.cut.log.add ⟨"host_log_string", Utf8.decode [0x68, 0xC3]⟩ }) ∧
    Sample.bound.call 16 16 .guest "talk" [.i32 16, .i32 2, .i32 0, .i32 4] Sample.cut =
      delivery context (Utf8.encode (Uppercase.ofText (Utf8.decode [0x68, 0xC3]))) 0 4 [] Sample.cut := by
  intro context
  have sees : context.SeesMemory := rfl
  have links : Linked.link .default (Capability.registry "env") Sample.bilingual = .ok Sample.bound := rfl
  have held : Sample.cut.memory.read 16 2 = .ok [0x68, 0xC3] := rfl
  obtain ⟨-, -, views, guests⟩ := Linked.text_faithful ⟨16, 2⟩ Sample.cut
  obtain ⟨-, -, single, -⟩ := Linked.text_faithful ⟨16, 1⟩ Sample.cut
  obtain ⟨-, written, followed, -⟩ := views context sees
  obtain ⟨logged, -⟩ := guests _ _ _ _ links 16 15 "say" _ [] rfl
  obtain ⟨-, answered⟩ := guests _ _ _ _ links 16 15 "talk" _ [] rfl
  obtain ⟨-, -, -, unbroken⟩ := single context sees
  refine ⟨written "h\u00e9" 65533 ⟨by decide, by decide⟩, followed "h" [0xC3] held,
    unbroken "h" ?_ (by decide), logged (.plain "env"), answered Uppercase.ofText 0 4 (.plain "env")⟩
  rw [Context.perform_readString sees]
  rfl

end GuestBoundary
