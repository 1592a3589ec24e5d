import GuestBoundary.Fault
import GuestBoundary.Wasm.Typing

/-! Sources of guest modules, and what makes the module in a source usable at all. -/

namespace GuestBoundary

namespace Wasm

/-- What a module is loaded from. -/
inductive Source where
  | described (guest : Module)
  | binary (bytes : List UInt8)
  | text (spelled : String)
  | missing

/-- The bytes that a module in binary form starts with. -/
def binaryHeader : List UInt8 := [0x00, 0x61, 0x73, 0x6D, 0x01, 0x00, 0x00, 0x00]

/-- The module in a source; of the raw forms only the empty module is known. -/
def Source.module? : Source → Option Module
  | .described guest => some guest
  | .binary bytes => if bytes = binaryHeader then some .empty else none
  | .text spelled => if spelled = "(module)" then some .empty else none
  | .missing => none

/-- The first of some names that occurs again after itself. -/
def repeated? : List String → Option String
  | [] => none
  | name :: rest => if rest.contains name then some name else repeated? rest

/-- The most elements that any table can start with. -/
def tableCap : Nat := 10000000

/-- A memory's limits are ordered and within what any memory can have. -/
def Limits.fitMemory (limits : Limits) : Bool :=
  limits.min ≤ limits.max.getD pageCap && limits.max.getD pageCap ≤ pageCap

/-- A table's limits are ordered, and it starts within what any table can start with. -/
def Limits.fitTable (limits : Limits) : Bool :=
  limits.min ≤ limits.max.getD limits.min && limits.min ≤ tableCap

namespace Module

/-- Whether the module has the item that an export shows. -/
def hasItem (guest : Module) : ExportKind → Bool
  | .function id => (guest.type? id).isSome
  | .memory index => index < guest.allMemories.length
  | .table index => index < guest.allTables.length
  | .global id => (guest.globalType? id).isSome

/-- Whether a function can run at the end of instantiation: it neither takes nor gives values. -/
def canStart (guest : Module) (id : String) : Bool := guest.type? id = some ⟨[], []⟩

/-- The first thing that makes a module unusable. -/
def defect? (guest : Module) : Option Invalid :=
  (repeated? (guest.exports.map (·.name))).map .repeatedExport <|>
  (repeated? guest.functionIds).map .repeatedFunction <|>
  (repeated? (guest.globals.map (·.id))).map .repeatedGlobal <|>
  (if guest.allMemories.all Limits.fitMemory && guest.allTables.all Limits.fitTable then none
    else some .limits) <|>
  (guest.exports.find? (fun item => !guest.hasItem item.kind)).map (.emptyExport ·.name) <|>
  (if guest.segments.isEmpty || !guest.allMemories.isEmpty then none
    else some .segmentsWithoutMemory) <|>
  (guest.start.filter (fun id => !guest.canStart id)).map .startFunction <|>
  (guest.functions.find? (fun function => !guest.wellTyped function)).map (.illTyped ·.id)

end Module

/-- Read a source, which must hold a module without defects. -/
def Source.read (source : Source) : Except Fault Module :=
  match source.module? with
  | none => .error (.invalidModule .unreadable)
  | some guest =>
    match guest.defect? with
    | some why => .error (.invalidModule why)
    | none => .ok guest

end Wasm

end GuestBoundary
