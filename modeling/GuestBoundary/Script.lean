import GuestBoundary.Program.Transfer

/-! Scripts: small host programs as data, which run over registers and can catch faults. -/

namespace GuestBoundary

namespace Script

/-- Where a step finds a value. -/
inductive Operand where
  | value (value : Value)
  | argument (index : Nat)
  | last (index : Nat)
  /-- The pointer of the buffer. -/
  | bufferPointer
  /-- The length of the buffer. -/
  | bufferLength
  deriving DecidableEq

/-- The steps of a script. -/
inductive Step where
  | invoke (name : String) (arguments : List Operand)
  | readString (pointer length : Operand)
  | readBytes (pointer length : Operand)
  | setData (bytes : List UInt8)
  | log (text : String)
  | logText
  | logHex
  | logLast
  | logState
  | logBuffer
  | hasExport (name : String)
  | respond (pointerSlot lengthSlot : Operand)
  | allocate (length : Operand)
  | copyIn
  | intoGuest
  | release
  | write (offset : Operand)
  | writeWord (offset word : Operand)
  | readWord (offset : Operand)
  /-- Run steps with the data placed in guest memory. -/
  | withBytes (body : List Step)
  | callWithBytes (name : String) (form : ResultForm)
  | readResult (form : ResultForm)
  /-- Run steps and log the fault they end with, if they do. -/
  | attempt (body : List Step)
  | fail (fault : Fault)
  | finish (values : List Operand)
  | finishLast

/-- What the steps of a script work on. -/
structure Registers where
  arguments : List Value
  last : List Value
  data : List UInt8
  buffer : Buffer

/-- The registers that a script starts with. -/
def Registers.start (arguments : List Value) (buffer : Buffer) : Registers :=
  ⟨arguments, [], [], buffer⟩

/-- How steps end. -/
inductive Ending where
  /-- All of them have run. -/
  | through
  | finished (values : List Value)
  | failed (fault : Fault)

/-- The outcome of a script that ended in a way. -/
def Ending.outcome : Ending → Except Fault (List Value)
  | .through => .ok []
  | .finished values => .ok values
  | .failed fault => .error fault

namespace Registers

/-- The value of an operand; one that is missing is zero. -/
def get (registers : Registers) : Operand → Value
  | .value value => value
  | .argument index => registers.arguments.getD index (.i32 0)
  | .last index => registers.last.getD index (.i32 0)
  | .bufferPointer => .i32 registers.buffer.pointer
  | .bufferLength => .i32 registers.buffer.length

/-- The low word of an operand. -/
def word (registers : Registers) (operand : Operand) : UInt32 := (registers.get operand).low

/-- The span that two operands give. -/
def span (registers : Registers) (pointer length : Operand) : Span :=
  ⟨registers.word pointer, registers.word length⟩

/-- Perform a boundary operation and store its value; a fault leaves the registers as they are. -/
def perform {α : Type} (registers : Registers) (program : Program α)
    (store : α → Registers) : Program (Registers × Ending) := do
  match ← program.attempt with
  | .ok value => return (store value, .through)
  | .error fault => return (registers, .failed fault)

end Registers

/-- The two lower-case hexadecimal digits of a byte. -/
def hexByte (byte : UInt8) : List Char :=
  [Nat.digitChar (byte.toNat / 16), Nat.digitChar (byte.toNat % 16)]

/-- Bytes in hexadecimal. -/
def hex (bytes : List UInt8) : String := String.ofList (bytes.flatMap hexByte)

/-- The line that tells how an instance stands. -/
def describeState : Program String := do
  let name ← Program.self
  let lines ← Program.logged
  let view ← View.resolve
  let size ← view.size
  return s!"{name} logs={lines} mem={size}"

/-- The line that tells a buffer. -/
def describeBuffer (buffer : Buffer) : String :=
  let numbers := Nat.repr buffer.pointer.toNat ++ "," ++ Nat.repr buffer.length.toNat
  "[" ++ numbers ++ ",\"" ++ buffer.owner.text ++ "\"]"

/-- The line that tells a caught fault. -/
def describeFault (fault : Fault) : String :=
  "caught " ++ fault.kind ++ ": " ++ fault.report?.getD ""

mutual

/-- Run one step. -/
def Step.run : Step → Registers → Program (Registers × Ending)
  | .invoke name arguments, r =>
    r.perform (Program.invoke name (arguments.map r.get)) fun last => { r with last }
  | .readString pointer length, r =>
    r.perform (Program.readString (r.span pointer length)) fun text =>
      { r with data := Utf8.encode text }
  | .readBytes pointer length, r =>
    r.perform (Program.readBytes (r.span pointer length)) fun data => { r with data }
  | .setData data, r => return ({ r with data }, .through)
  | .log text, r => r.perform (Program.log text) fun _ => r
  | .logText, r => r.perform (Program.log (Utf8.decode r.data)) fun _ => r
  | .logHex, r => r.perform (Program.log (hex r.data)) fun _ => r
  | .logLast, r =>
    r.perform (Program.log (String.intercalate "," (r.last.map Value.text))) fun _ => r
  | .logState, r => r.perform (describeState >>= Program.log) fun _ => r
  | .logBuffer, r => r.perform (Program.log (describeBuffer r.buffer)) fun _ => r
  | .hasExport name, r =>
    r.perform (Program.hasExport name) fun found =>
      { r with last := [.i32 (if found then 1 else 0)] }
  | .respond pointerSlot lengthSlot, r =>
    r.perform (Program.writeOutSlots r.data (r.word pointerSlot) (r.word lengthSlot))
      fun buffer => { r with buffer }
  | .allocate length, r =>
    r.perform (Program.allocate (r.word length)) fun buffer => { r with buffer }
  | .copyIn, r => r.perform (Program.copyIn r.data) fun buffer => { r with buffer }
  | .intoGuest, r => return ({ r with buffer := r.buffer.intoGuest }, .through)
  | .release, r => r.perform (Program.release r.buffer) fun _ => r
  | .write offset, r =>
    r.perform (View.resolve >>= fun view => view.write (r.word offset) r.data) fun _ => r
  | .writeWord offset word, r =>
    r.perform (View.resolve >>= fun view => view.writeWord (r.word offset) (r.word word))
      fun _ => r
  | .readWord offset, r =>
    r.perform (View.resolve >>= fun view => view.readWord (r.word offset)) fun word =>
      { r with last := [.i32 word] }
  | .withBytes body, r =>
    r.perform
      (Program.withGuestBytes r.data fun buffer => do
        let (_, ending) ← runAll body { r with buffer }
        Program.settle ending.outcome)
      fun last => { r with last }
  | .callWithBytes name form, r =>
    r.perform (Program.callWithBytes name r.data form) fun data => { r with data }
  | .readResult form, r =>
    r.perform (Program.readResult r.last form) fun data => { r with data }
  | .attempt body, r => do
    let (r, ending) ← runAll body r
    match ending.outcome with
    | .ok last => return ({ r with last }, .through)
    | .error fault => do
      Program.log (describeFault fault)
      return (r, .through)
  | .fail fault, r => return (r, .failed fault)
  | .finish values, r => return (r, .finished (values.map r.get))
  | .finishLast, r => return (r, .finished r.last)

/-- Run steps in order until one of them ends the script. -/
def runAll : List Step → Registers → Program (Registers × Ending)
  | [], r => return (r, .through)
  | step :: rest, r => do
    match ← step.run r with
    | (r, .through) => runAll rest r
    | ended => return ended

end

/-- The values that a script gives. -/
def program (steps : List Step) (registers : Registers) : Program (List Value) := do
  let (_, ending) ← runAll steps registers
  Program.settle ending.outcome

/-- The body of a host function that runs a script. -/
def body (steps : List Step) (arguments : List Value) : Program (List Value) :=
  program steps (.start arguments .nothing)

end Script

end GuestBoundary
