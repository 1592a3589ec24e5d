import GuestBoundary.Fault
import GuestBoundary.Wasm.Module

/-! The interface of a guest module: what it exports and imports, as far as the boundary sees it. -/

namespace GuestBoundary

namespace Wasm

/-- What an import asks for, as far as the boundary sees it. -/
inductive ShapeKind where
  /-- A function, with its signature if it uses integers alone. -/
  | function (signature : Option Signature)
  | memory
  | table
  | global
  deriving DecidableEq

/-- The spelling of what an import asks for. -/
def ShapeKind.text : ShapeKind → String
  | .function (some signature) => signature.text
  | .function none => "non-integer"
  | .memory => "memory"
  | .table => "table"
  | .global => "global"

/-- An import as far as the boundary sees it. -/
structure ImportShape where
  space : String
  name : String
  kind : ShapeKind
  deriving DecidableEq

/-- The shape of an import. -/
def Import.shape (item : Import) : ImportShape :=
  ⟨item.space, item.name,
    match item.kind with
    | .function _ type => .function type.signature?
    | .memory _ => .memory
    | .table _ => .table
    | .global _ => .global⟩

/-- What a module exports and imports. -/
structure Interface where
  /-- The functions over integers alone, by name. -/
  exports : List (String × Signature)
  /-- The names of all other exports, in order of declaration. -/
  others : List String
  imports : List ImportShape
  /-- The names of exported memories. -/
  memories : List String

/-- The signature of an exported item, if it is a function over integers alone. -/
def Module.exportSignature? (guest : Module) (item : Export) : Option Signature :=
  match item.kind with
  | .function id => (guest.type? id).bind FuncType.signature?
  | _ => none

/-- The interface of a module. -/
def Module.interface (guest : Module) : Interface where
  exports :=
    (guest.exports.filterMap fun item =>
      (guest.exportSignature? item).map fun signature => (item.name, signature)).mergeSort
        fun first second => first.1 ≤ second.1
  others := (guest.exports.filter fun item => (guest.exportSignature? item).isNone).map (·.name)
  imports := guest.imports.map Import.shape
  memories := (guest.exports.filter fun item => item.kind.isMemory).map (·.name)

namespace Interface

/-- The signature of an exported function. -/
def signature? (shown : Interface) (name : String) : Option Signature :=
  shown.exports.lookup name

/-- Whether a memory is exported under a name. -/
def exportsMemory (shown : Interface) (name : String) : Bool := shown.memories.contains name

/-- Fail unless a memory is exported under a name. -/
def requireMemory (shown : Interface) (name : String) : Except Fault Unit :=
  if shown.exportsMemory name then .ok () else .error (.invalidModule (.memoryRequired name))

end Interface

end Wasm

end GuestBoundary
