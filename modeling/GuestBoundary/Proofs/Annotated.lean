import GuestBoundary.Proofs.Moments

/-! Annotated programs: host programs that show where they perform an operation of the protocol. -/

namespace GuestBoundary

/-- A host program whose requests have a purpose, with marks in between. -/
inductive Annotated (α : Type) where
  | done (value : α)
  | fail (fault : Fault)
  | ask (purpose : Purpose) (request : Request) (resume : request.Reply → Annotated α)
  | marking (mark : Mark) (rest : Annotated α)

namespace Annotated

variable {α β : Type}

/-- Go on with the value of a program; a fault ends both. -/
def bind (annotated : Annotated α) (next : α → Annotated β) : Annotated β :=
  match annotated with
  | .done value => next value
  | .fail fault => .fail fault
  | .ask purpose request resume => .ask purpose request fun reply => (resume reply).bind next
  | .marking mark rest => .marking mark (rest.bind next)

instance : Monad Annotated where
  pure := .done
  bind := .bind

/-- Run a program to its end, whether that is a value or a fault. -/
def attempt : Annotated α → Annotated (Except Fault α)
  | .done value => .done (.ok value)
  | .fail fault => .done (.error fault)
  | .ask purpose request resume => .ask purpose request fun reply => (resume reply).attempt
  | .marking mark rest => .marking mark rest.attempt

/-- A program with one purpose for all its requests. -/
def plain (purpose : Purpose) : Program α → Annotated α
  | .done value => .done value
  | .fail fault => .fail fault
  | .ask request resume => .ask purpose request fun reply => plain purpose (resume reply)

/-- A mark alone. -/
def tell (mark : Mark) : Annotated Unit := .marking mark (.done ())

/-- The program that is left without annotations. -/
def program : Annotated α → Program α
  | .done value => .done value
  | .fail fault => .fail fault
  | .ask _ request resume => .ask request fun reply => (resume reply).program
  | .marking _ rest => rest.program

@[simp] theorem program_pure (value : α) : (pure value : Annotated α).program = pure value := rfl

@[simp] theorem program_fail (fault : Fault) : (.fail fault : Annotated α).program = .fail fault :=
  rfl

@[simp] theorem program_tell (mark : Mark) : (tell mark).program = pure () := rfl

@[simp] theorem program_bind (annotated : Annotated α) (next : α → Annotated β) :
    (annotated >>= next).program = annotated.program >>= fun value => (next value).program := by
  -- The annotations are dropped one by one.
  induction annotated with
  | done | fail => rfl
  | ask purpose request resume ih => exact congrArg _ (funext ih)
  | marking mark rest ih => exact ih

@[simp] theorem program_attempt (annotated : Annotated α) :
    annotated.attempt.program = annotated.program.attempt := by
  induction annotated with
  | done | fail => rfl
  | ask purpose request resume ih => exact congrArg _ (funext ih)
  | marking mark rest ih => exact ih

@[simp] theorem program_plain (purpose : Purpose) (program : Program α) :
    (plain purpose program).program = program := by
  induction program with
  | done | fail => rfl
  | ask request resume ih => exact congrArg _ (funext ih)

/-- A sequence that is plain has plain parts. -/
theorem plain_bind (purpose : Purpose) (program : Program α) (next : α → Program β) :
    plain purpose (program >>= next) = plain purpose program >>= fun value =>
      plain purpose (next value) := by
  induction program with
  | done | fail => rfl
  | ask request resume ih => exact congrArg _ (funext ih)

/-- Ask the guest allocator for a buffer. -/
def allocate (length : UInt32) : Annotated Buffer := do
  let buffer ← plain .own (Program.allocate length)
  tell (.obtained (.allocate length) buffer)
  return buffer

/-- Give a buffer back to the guest, for a host that asks for it. -/
def release (buffer : Buffer) : Annotated Unit := do
  tell (.releasing buffer)
  plain (.release buffer) (Program.release buffer)

/-- Give a buffer back to the guest at the end of an operation that has placed it. -/
def close (buffer : Buffer) : Annotated Unit := do
  tell (.closing buffer)
  plain (.release buffer) (Program.release buffer)

/-- Give a buffer back after a failure, which matters more than a failure to do so. -/
def closeAfterFailure (buffer : Buffer) : Annotated Unit := do
  let _ ← (close buffer).attempt
  return ()

/-- Place bytes in a new allocation. -/
def copyIn (bytes : List UInt8) : Annotated Buffer :=
  if bytes.length < UInt32.size then do
    let view ← plain .own View.resolve
    let buffer ← allocate (UInt32.ofNat bytes.length)
    match ← (plain .own (view.write buffer.pointer bytes)).attempt with
    | .ok _ => do
      tell (.obtained (.copyIn bytes) buffer)
      return buffer
    | .error fault => do
      closeAfterFailure buffer
      .fail fault
  else .fail (.allocationFailed 0xFFFFFFFF .tooLarge)

/-- The guest's buffer that a result list describes. -/
def readGuestBuffer (values : List Value) : Annotated Buffer := do
  let buffer ← plain .own (Program.readGuestBuffer values)
  tell (.obtained (.readGuestBuffer values) buffer)
  return buffer

/-- Deliver bytes to the guest through two slots. -/
def writeOutSlots (bytes : List UInt8) (pointerSlot lengthSlot : UInt32) : Annotated Buffer := do
  let view ← plain .own View.resolve
  let size ← plain .own view.size
  plain .own (Program.settle (checkRange size pointerSlot 4))
  plain .own (Program.settle (checkRange size lengthSlot 4))
  if bytes = [] then do
    plain .own (view.writeWord pointerSlot 0)
    plain .own (view.writeWord lengthSlot 0)
    tell (.obtained (.writeOutSlots bytes pointerSlot lengthSlot) ⟨⟨0, 0⟩, .guestOwned⟩)
    return ⟨⟨0, 0⟩, .guestOwned⟩
  else do
    let buffer ← copyIn bytes
    plain .own (view.writeWord pointerSlot buffer.pointer)
    plain .own (view.writeWord lengthSlot buffer.length)
    tell (.obtained (.writeOutSlots bytes pointerSlot lengthSlot) buffer.intoGuest)
    return buffer.intoGuest

/-- Run a producer. -/
def produce : Producer → Annotated Buffer
  | .allocate length => allocate length
  | .copyIn bytes => copyIn bytes
  | .readGuestBuffer values => readGuestBuffer values
  | .writeOutSlots bytes pointerSlot lengthSlot => writeOutSlots bytes pointerSlot lengthSlot

/-- Run a body with bytes placed in guest memory, and release them however it ends. -/
def withGuestBytes (bytes : List UInt8) (body : Buffer → Annotated α) : Annotated α :=
  if bytes = [] then body .nothing
  else do
    let buffer ← copyIn bytes
    plain .own (Program.note (.opened buffer.span))
    let outcome ← (body buffer).attempt
    plain .own (Program.note (.closing buffer.span))
    match outcome with
    | .ok value => do
      close buffer
      return value
    | .error fault => do
      closeAfterFailure buffer
      .fail fault

@[simp] theorem program_allocate (length : UInt32) :
    (allocate length).program = Program.allocate length := by
  simp [allocate]

@[simp] theorem program_release (buffer : Buffer) :
    (release buffer).program = Program.release buffer := by
  simp [release]

@[simp] theorem program_close (buffer : Buffer) :
    (close buffer).program = Program.release buffer := by
  simp [close]

@[simp] theorem program_closeAfterFailure (buffer : Buffer) :
    (closeAfterFailure buffer).program = Program.releaseAfterFailure buffer := by
  simp [closeAfterFailure, Program.releaseAfterFailure]

@[simp] theorem program_copyIn (bytes : List UInt8) :
    (copyIn bytes).program = Program.copyIn bytes := by
  -- The two go through the same steps, and the marks leave nothing behind.
  unfold copyIn Program.copyIn
  split
  · simp only [program_bind, program_plain, program_allocate, program_attempt]
    refine bind_congr fun view => bind_congr fun buffer => bind_congr fun written => ?_
    cases written <;> simp
  · rfl

@[simp] theorem program_readGuestBuffer (values : List Value) :
    (readGuestBuffer values).program = Program.readGuestBuffer values := by
  simp [readGuestBuffer]

@[simp] theorem program_writeOutSlots (bytes : List UInt8) (pointerSlot lengthSlot : UInt32) :
    (writeOutSlots bytes pointerSlot lengthSlot).program =
      Program.writeOutSlots bytes pointerSlot lengthSlot := by
  unfold writeOutSlots Program.writeOutSlots
  simp only [program_bind, program_plain]
  refine bind_congr fun view => bind_congr fun size => bind_congr fun _ => bind_congr fun _ => ?_
  split <;> simp

/-- An annotated producer is the producer. -/
theorem program_produce (producer : Producer) : (produce producer).program = producer.program := by
  cases producer <;> simp [produce, Producer.program]

/-- An annotated scope is the scope around the body without its annotations. -/
theorem program_withGuestBytes (bytes : List UInt8) (body : Buffer → Annotated α) :
    (withGuestBytes bytes body).program =
      Program.withGuestBytes bytes fun buffer => (body buffer).program := by
  unfold withGuestBytes Program.withGuestBytes
  split
  · rfl
  · simp only [program_bind, program_plain, program_copyIn, program_attempt]
    refine bind_congr fun buffer => bind_congr fun _ => bind_congr fun outcome =>
      bind_congr fun _ => ?_
    cases outcome <;> simp

/--
A program whose marks all come from the operations of the protocol.

The operations may stand anywhere in it, also in the bodies of scopes and in what is attempted, and
between them there may be requests of any kind.
-/
inductive Honest : {α : Type} → Annotated α → Prop
  | plain {α : Type} (program : Program α) : Honest (plain .own program)
  | bind {α β : Type} {annotated : Annotated α} {next : α → Annotated β} :
      Honest annotated → (∀ value, Honest (next value)) → Honest (annotated >>= next)
  | attempt {α : Type} {annotated : Annotated α} : Honest annotated → Honest annotated.attempt
  | produce (producer : Producer) : Honest (produce producer)
  | release (buffer : Buffer) : Honest (release buffer)
  | scope {α : Type} (bytes : List UInt8) {body : Buffer → Annotated α} :
      (∀ buffer, Honest (body buffer)) → Honest (withGuestBytes bytes body)

end Annotated

end GuestBoundary
