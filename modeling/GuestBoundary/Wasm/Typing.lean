import GuestBoundary.Wasm.Module

/-! Typing of bodies: every instruction finds operands of the types it takes, on every path. -/

namespace GuestBoundary

namespace Wasm

/-- The 32-bit integer type. -/
abbrev ValType.i32 : ValType := .number .i32

/-- The 64-bit integer type. -/
abbrev ValType.i64 : ValType := .number .i64

/-- What the body of a function may refer to, and the results that it must leave. -/
structure Scope where
  function? : String → Option FuncType
  global? : String → Option ValType
  locals : List ValType
  hasMemory : Bool
  results : List ValType

/-- The types of the operands at a point of a body, newest first. -/
structure Operands where
  types : List ValType
  /-- Where control never gets, any operands may lie below the known ones. -/
  reached : Bool

namespace Operands

/-- No operands, at the start of a block. -/
def empty : Operands := ⟨[], true⟩

/-- The operands after control went elsewhere. -/
def unreached : Operands := ⟨[], false⟩

/-- Leave operands, the last one newest. -/
def push (types : List ValType) (operands : Operands) : Operands :=
  { operands with types := types.reverse ++ operands.types }

/-- Take the newest operand, which must have a type. -/
def popOne (operands : Operands) (type : ValType) : Option Operands :=
  match operands.types with
  | newest :: older => if newest = type then some { operands with types := older } else none
  | [] => if operands.reached then none else some operands

/-- Take operands, the last one newest. -/
def pop (types : List ValType) (operands : Operands) : Option Operands :=
  types.reverse.foldlM popOne operands

/-- Take the newest operand, whatever its type. -/
def drop (operands : Operands) : Option Operands :=
  match operands.types with
  | _ :: older => some { operands with types := older }
  | [] => if operands.reached then none else some operands

/-- Take operands and leave others. -/
def apply (effect : FuncType) (operands : Operands) : Option Operands :=
  (operands.pop effect.params).map (·.push effect.results)

end Operands

namespace Scope

/-- The types that an access to memory takes and leaves. -/
def memoryEffect? (scope : Scope) (params results : List ValType) : Option FuncType :=
  if scope.hasMemory then some ⟨params, results⟩ else none

/-- The types that an instruction takes and leaves, if control goes on to the next one. -/
def effect? (scope : Scope) : Instruction → Option FuncType
  | .call function => scope.function? function
  | .localGet index => scope.locals[index]?.map fun type => ⟨[], [type]⟩
  | .localSet index => scope.locals[index]?.map fun type => ⟨[type], []⟩
  | .localTee index => scope.locals[index]?.map fun type => ⟨[type], [type]⟩
  | .globalGet id => (scope.global? id).map fun type => ⟨[], [type]⟩
  | .globalSet id => (scope.global? id).map fun type => ⟨[type], []⟩
  | .const value => some ⟨[], [.number value.type]⟩
  | .word _ => some ⟨[.i32, .i32], [.i32]⟩
  | .long _ => some ⟨[.i64, .i64], [.i64]⟩
  | .eqz => some ⟨[.i32], [.i32]⟩
  | .wrap => some ⟨[.i64], [.i32]⟩
  | .extendU => some ⟨[.i32], [.i64]⟩
  | .extendS => some ⟨[.i32], [.i64]⟩
  | .load => scope.memoryEffect? [.i32] [.i32]
  | .loadByte => scope.memoryEffect? [.i32] [.i32]
  | .store => scope.memoryEffect? [.i32, .i32] []
  | .memorySize => scope.memoryEffect? [] [.i32]
  | .memoryGrow => scope.memoryEffect? [.i32] [.i32]
  | .memoryCopy => scope.memoryEffect? [.i32, .i32, .i32] []
  | .memoryFill => scope.memoryEffect? [.i32, .i32, .i32] []
  | _ => none

/-- The types that a branch carries out of so many of the enclosing blocks. Only the outermost
block, which is the body, has results. -/
def branchTypes? (scope : Scope) (enclosing depth : Nat) : Option (List ValType) :=
  if depth < enclosing then some []
  else if depth = enclosing then some scope.results
  else none

mutual

/-- The operands after an instruction within so many blocks, if it is well-typed. -/
def check (scope : Scope) (enclosing : Nat) : Instruction → Operands → Option Operands
  | .block body, operands => do
    let inner ← scope.checkAll (enclosing + 1) body .empty
    if inner.types = [] then return operands else none
  | .loop body, operands => do
    let inner ← scope.checkAll (enclosing + 1) body .empty
    if inner.types = [] then return operands else none
  | .branch yes no, operands => do
    let operands ← operands.pop [.i32]
    let first ← scope.checkAll (enclosing + 1) yes .empty
    let second ← scope.checkAll (enclosing + 1) no .empty
    if first.types = [] ∧ second.types = [] then return operands else none
  | .br depth, operands => do
    let _ ← operands.pop (← scope.branchTypes? enclosing depth)
    return .unreached
  | .brIf depth, operands => do
    let types ← scope.branchTypes? enclosing depth
    (← operands.pop [.i32]).apply ⟨types, types⟩
  | .ret, operands => do
    let _ ← operands.pop scope.results
    return .unreached
  | .unreachable, _ => some .unreached
  | .drop, operands => operands.drop
  | instruction, operands => do operands.apply (← scope.effect? instruction)

/-- The operands after instructions in order, if they are well-typed. -/
def checkAll (scope : Scope) (enclosing : Nat) : List Instruction → Operands → Option Operands
  | [], operands => some operands
  | instruction :: rest, operands => do
    scope.checkAll enclosing rest (← scope.check enclosing instruction operands)

end

/-- A body is well-typed if it leaves just the results. -/
def accepts (scope : Scope) (body : List Instruction) : Bool :=
  match (scope.checkAll 0 body .empty).bind (·.pop scope.results) with
  | some operands => operands.types.isEmpty
  | none => false

end Scope

/-- What the body of a function may refer to. -/
def Module.scope (guest : Module) (function : Function) : Scope where
  function? := guest.type?
  global? := guest.globalType?
  locals := function.type.params ++ function.locals
  hasMemory := !guest.allMemories.isEmpty
  results := function.type.results

/-- A function is well-typed if its body is. -/
def Module.wellTyped (guest : Module) (function : Function) : Bool :=
  (guest.scope function).accepts function.body

end Wasm

end GuestBoundary
