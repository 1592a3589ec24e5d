import GuestBoundary.Wasm.FuncType

/-! Guest modules: their instructions, functions, memories, imports and exports. -/

namespace GuestBoundary

namespace Wasm

/-- Operations on two 32-bit words. -/
inductive WordOp where
  | add
  | sub
  | mul
  | and
  | divU
  | divS
  | remU
  deriving DecidableEq

/-- Operations on two 64-bit words. -/
inductive LongOp where
  | add
  | mul
  | or
  | shl
  deriving DecidableEq

/-- Instructions; blocks take no operands and leave none. -/
inductive Instruction where
  | block (body : List Instruction)
  | loop (body : List Instruction)
  | branch (yes no : List Instruction)
  /-- Leave as many enclosing blocks as the depth says, and one more. -/
  | br (depth : Nat)
  | brIf (depth : Nat)
  | ret
  | unreachable
  | drop
  | call (function : String)
  | localGet (index : Nat)
  | localSet (index : Nat)
  | localTee (index : Nat)
  | globalGet (id : String)
  | globalSet (id : String)
  | const (value : Value)
  | word (op : WordOp)
  | long (op : LongOp)
  | eqz
  | wrap
  | extendU
  | extendS
  | load
  | loadByte
  | store
  | memorySize
  | memoryGrow
  | memoryCopy
  | memoryFill

/-- A function of a guest; its parameters are the first locals, the declared ones start at zero. -/
structure Function where
  id : String
  type : FuncType
  locals : List ValType
  body : List Instruction

/-- The size limits of a memory, in pages, or of a table, in elements. -/
structure Limits where
  min : Nat
  max : Option Nat
  deriving DecidableEq

/-- A mutable global with its initial value. -/
structure Global where
  id : String
  type : ValType
  init : Int

/-- What an import asks for. -/
inductive ImportKind where
  | function (id : String) (type : FuncType)
  | memory (limits : Limits)
  | table (limits : Limits)
  | global (type : ValType)
  deriving DecidableEq

/-- An import by namespace and name. -/
structure Import where
  space : String
  name : String
  kind : ImportKind
  deriving DecidableEq

/-- What an export shows. -/
inductive ExportKind where
  | function (id : String)
  /-- A memory by its position, where the imported ones come first. -/
  | memory (index : Nat)
  /-- A table by its position, where the imported ones come first. -/
  | table (index : Nat)
  | global (id : String)
  deriving DecidableEq

/-- An exported item. -/
structure Export where
  name : String
  kind : ExportKind
  deriving DecidableEq

/-- Bytes that are written into memory at instantiation. -/
structure Segment where
  offset : UInt32
  bytes : List UInt8
  deriving DecidableEq

/-- A guest module. -/
structure Module where
  imports : List Import
  memories : List Limits
  tables : List Limits
  globals : List Global
  functions : List Function
  exports : List Export
  segments : List Segment
  /-- A function that runs at the end of instantiation. -/
  start : Option String

/-- A module without any content. -/
def Module.empty : Module := ⟨[], [], [], [], [], [], [], none⟩

/-- The most pages that any memory can have. -/
def pageCap : Nat := 65536

/-- Whether an exported item is a memory. -/
def ExportKind.isMemory : ExportKind → Bool
  | .memory _ => true
  | _ => false

namespace Module

/-- The type of an imported function. -/
def importType? (guest : Module) (id : String) : Option FuncType :=
  guest.imports.findSome? fun
    | ⟨_, _, .function own type⟩ => if own == id then some type else none
    | _ => none

/-- A function that the guest itself defines. -/
def function? (guest : Module) (id : String) : Option Function :=
  guest.functions.find? (·.id == id)

/-- The type of a function, imported or defined. -/
def type? (guest : Module) (id : String) : Option FuncType :=
  (guest.importType? id).or ((guest.function? id).map (·.type))

/-- The type of a global that the guest itself defines. -/
def globalType? (guest : Module) (id : String) : Option ValType :=
  (guest.globals.find? (·.id == id)).map (·.type)

/-- The limits of all memories, imported and defined. -/
def allMemories (guest : Module) : List Limits :=
  guest.imports.filterMap (fun item =>
    match item.kind with
    | .memory limits => some limits
    | _ => none) ++ guest.memories

/-- The limits of all tables, imported and defined. -/
def allTables (guest : Module) : List Limits :=
  guest.imports.filterMap (fun item =>
    match item.kind with
    | .table limits => some limits
    | _ => none) ++ guest.tables

/-- The names that code calls functions by, imported and defined. -/
def functionIds (guest : Module) : List String :=
  guest.imports.filterMap (fun item =>
    match item.kind with
    | .function id _ => some id
    | _ => none) ++ guest.functions.map (·.id)

/-- Whether a memory is exported under a name. -/
def exportsMemory (guest : Module) (name : String) : Bool :=
  guest.exports.any fun item => item.kind.isMemory && item.name == name

/-- The function that is exported under a name. -/
def exportedFunction? (guest : Module) (name : String) : Option String :=
  guest.exports.findSome? fun
    | ⟨own, .function id⟩ => if own == name then some id else none
    | _ => none

end Module

end Wasm

end GuestBoundary
