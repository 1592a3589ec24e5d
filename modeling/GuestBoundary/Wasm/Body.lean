import GuestBoundary.Wasm.Module
import GuestBoundary.Wasm.Store

/-! Running the bodies of guest functions, given what the functions they call do. -/

namespace GuestBoundary

namespace Wasm

/-- A function that a body can call: the types of its operands, and what it does with them. -/
structure Callable where
  params : List NumType
  run : List Value → Run (List Value)

/-- What the bodies of an instance run in. -/
structure Surroundings where
  callable? : String → Option Callable
  /-- The most pages that memory may grow to. -/
  maxPages : Nat
  /-- The most iterations of one loop that the engine waits for. -/
  patience : Nat

/-- The operands, newest first, and the locals of a running function. -/
structure Frame where
  stack : List Value
  locals : List Value

/-- How control leaves an instruction. -/
inductive Flow where
  /-- To the instruction after it. -/
  | next (frame : Frame)
  /-- To the end, or start for a loop, of an enclosing block. -/
  | branch (depth : Nat) (frame : Frame)
  /-- Out of the function, with its results on the stack. -/
  | leave (stack : List Value)

/-- An operation on two 32-bit words. -/
def WordOp.apply (op : WordOp) (left right : UInt32) : Except Trap UInt32 :=
  match op with
  | .add => .ok (left + right)
  | .sub => .ok (left - right)
  | .mul => .ok (left * right)
  | .and => .ok (left &&& right)
  | .divU => if right = 0 then .error .divisionByZero else .ok (left / right)
  | .remU => if right = 0 then .error .divisionByZero else .ok (left % right)
  | .divS =>
    if right = 0 then .error .divisionByZero
    -- The one quotient that no signed word holds.
    else if left = 0x80000000 ∧ right = 0xFFFFFFFF then .error .integerOverflow
    else .ok (left.toInt32 / right.toInt32).toUInt32

/-- An operation on two 64-bit words. -/
def LongOp.apply (op : LongOp) (left right : UInt64) : UInt64 :=
  match op with
  | .add => left + right
  | .mul => left * right
  | .or => left ||| right
  -- The distance counts modulo the width.
  | .shl => left <<< right

/-- A word that is one where a condition holds and zero elsewhere. -/
def truth (condition : Bool) : Value := .i32 (if condition then 1 else 0)

/-- The answer of a growth that is refused. -/
def refusedGrowth : UInt32 := 0xFFFFFFFF

/-- Grow memory by pages and give the pages before, unless it would pass the limit. -/
def growMemory (maxPages : Nat) (pages : UInt32) : Run UInt32 := do
  let memory := (← get).memory
  -- Sizes are numbers without a bound here, so no sum of pages wraps around.
  let size := memory.size + pages.toNat * pageSize
  if size ≤ maxPages * pageSize then do
    modify fun store => { store with memory := memory.grow size }
    return UInt32.ofNat (memory.size / pageSize)
  else return refusedGrowth

/-- Overwrite guest memory from guest code. -/
def storeBytes (address : UInt32) (bytes : List UInt8) : Run Unit := do
  let memory ← Run.access ((← get).memory.write address bytes)
  modify fun store => { store with memory }

/-- An instruction that only passes operands on to the next one. -/
def simple (surroundings : Surroundings) (instruction : Instruction) (frame : Frame) :
    Run Frame := do
  let push (value : Value) (rest : List Value) : Frame := { frame with stack := value :: rest }
  match instruction, frame.stack with
  | .unreachable, _ => Run.trap .unreachable
  | .drop, _ :: rest => return { frame with stack := rest }
  | .const value, stack => return push value stack
  | .localGet index, stack =>
    match frame.locals[index]? with
    | some value => return push value stack
    | none => Run.trap .illTyped
  | .localSet index, value :: rest => return ⟨rest, frame.locals.set index value⟩
  | .localTee index, value :: rest => return ⟨value :: rest, frame.locals.set index value⟩
  | .globalGet id, stack =>
    match (← get).globals.lookup id with
    | some value => return push value stack
    | none => Run.trap .illTyped
  | .globalSet id, value :: rest => do
    modify fun store =>
      { store with globals := store.globals.map fun (own, old) => (own, if own == id then value else old) }
    return { frame with stack := rest }
  | .word op, .i32 right :: .i32 left :: rest =>
    match op.apply left right with
    | .ok word => return push (.i32 word) rest
    | .error trap => Run.trap trap
  | .long op, .i64 right :: .i64 left :: rest => return push (.i64 (op.apply left right)) rest
  | .eqz, .i32 word :: rest => return push (truth (word == 0)) rest
  | .wrap, .i64 word :: rest => return push (.i32 word.toUInt32) rest
  | .extendU, .i32 word :: rest => return push (.i64 word.toUInt64) rest
  | .extendS, .i32 word :: rest => return push (.i64 word.toInt32.toInt64.toUInt64) rest
  | .load, .i32 address :: rest => do
    let word ← Run.access ((← get).memory.readWord address)
    return push (.i32 word) rest
  | .loadByte, .i32 address :: rest => do
    let bytes ← Run.access ((← get).memory.read address 1)
    return push (.i32 (bytes.headD 0).toUInt32) rest
  | .store, .i32 word :: .i32 address :: rest => do
    storeBytes address (wordBytes word)
    return { frame with stack := rest }
  | .memorySize, stack => do
    return push (.i32 (UInt32.ofNat ((← get).memory.size / pageSize))) stack
  | .memoryGrow, .i32 pages :: rest => do
    return push (.i32 (← growMemory surroundings.maxPages pages)) rest
  | .memoryCopy, .i32 count :: .i32 source :: .i32 target :: rest => do
    -- All bytes are read before any is written, so the two spans may overlap.
    storeBytes target (← Run.access ((← get).memory.read source count))
    return { frame with stack := rest }
  | .memoryFill, .i32 count :: .i32 word :: .i32 target :: rest => do
    Run.access (checkRange (← get).memory.size target count)
    storeBytes target (List.replicate count.toNat word.toUInt8)
    return { frame with stack := rest }
  | _, _ => Run.trap .illTyped

/-- Take the operands of a call off the stack, which holds the last one first. -/
def takeOperands (params : List NumType) (stack : List Value) :
    Option (List Value × List Value) :=
  -- A stack that is too short has too few types to match.
  let operands := (stack.take params.length).reverse
  if operands.map Value.type = params then some (operands, stack.drop params.length) else none

/-- Call a function with operands from the stack and leave its results there. -/
def callFunction (surroundings : Surroundings) (function : String) (frame : Frame) : Run Frame := do
  match surroundings.callable? function with
  | none => Run.trap .illTyped
  | some callable =>
    match takeOperands callable.params frame.stack with
    | none => Run.trap .illTyped
    | some (operands, rest) => do
      let results ← callable.run operands
      return { frame with stack := results.reverse ++ rest }

/-- Control after the body of a block, whose own operands are gone. -/
def Flow.leaveBlock (outer : List Value) : Flow → Flow
  | .next frame => .next ⟨outer, frame.locals⟩
  | .branch 0 frame => .next ⟨outer, frame.locals⟩
  | .branch (depth + 1) frame => .branch depth frame
  | .leave stack => .leave stack

/-- Run the body of a loop again for as long as it branches to its start. Every iteration costs
fuel. -/
def iterate (body : List Value → Run Flow) (outer : List Value) : Nat → List Value → Run Flow
  | 0, _ => Run.endless
  | patience + 1, locals => do
    Run.charge
    match ← body locals with
    | .branch 0 frame => iterate body outer patience frame.locals
    | flow => return flow.leaveBlock outer

mutual

/-- Run one instruction. -/
def execute (surroundings : Surroundings) : Instruction → Frame → Run Flow
  | .block body, frame => do
    return (← executeAll surroundings body ⟨[], frame.locals⟩).leaveBlock frame.stack
  | .loop body, frame =>
    iterate (fun locals => executeAll surroundings body ⟨[], locals⟩) frame.stack
      surroundings.patience frame.locals
  | .branch yes no, ⟨.i32 condition :: rest, locals⟩ => do
    let flow ←
      if condition = 0 then executeAll surroundings no ⟨[], locals⟩
      else executeAll surroundings yes ⟨[], locals⟩
    return flow.leaveBlock rest
  | .br depth, frame => return .branch depth frame
  | .brIf depth, ⟨.i32 condition :: rest, locals⟩ =>
    if condition = 0 then return .next ⟨rest, locals⟩ else return .branch depth ⟨rest, locals⟩
  | .ret, frame => return .leave frame.stack
  | .call function, frame => return .next (← callFunction surroundings function frame)
  | instruction, frame => return .next (← simple surroundings instruction frame)

/-- Run instructions in order until control goes elsewhere. -/
def executeAll (surroundings : Surroundings) : List Instruction → Frame → Run Flow
  | [], frame => return .next frame
  | instruction :: rest, frame => do
    match ← execute surroundings instruction frame with
    | .next frame => executeAll surroundings rest frame
    | flow => return flow

end

/-- The initial value of a declared local or global, for the types that code can use. -/
def ValType.value (type : ValType) (init : Int) : Value :=
  .ofInt (type.number?.getD .i32) init

/-- The results on a stack, whose newest value is the last result. -/
def takeResults (types : List ValType) (stack : List Value) : Run (List Value) :=
  let results := (stack.take types.length).reverse
  if results.map (.number ·.type) = types then return results else Run.trap .illTyped

/-- Run a function with its arguments. Its body is a block too, so a branch to its end returns. -/
def Function.run (surroundings : Surroundings) (function : Function) (arguments : List Value) :
    Run (List Value) := do
  Run.charge
  -- The parameters are the first locals, and the declared ones start at zero.
  let locals := arguments ++ function.locals.map (·.value 0)
  match ← executeAll surroundings function.body ⟨[], locals⟩ with
  | .next frame => takeResults function.type.results frame.stack
  | .leave stack => takeResults function.type.results stack
  | .branch 0 frame => takeResults function.type.results frame.stack
  | .branch _ _ => Run.trap .illTyped

end Wasm

end GuestBoundary
