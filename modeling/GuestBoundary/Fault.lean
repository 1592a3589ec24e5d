import GuestBoundary.Buffer
import GuestBoundary.Wasm.FuncType

/-! Faults: everything that can go wrong at the boundary, by cause, with its wording. -/

namespace GuestBoundary

/-- Where a guest stands in its life. -/
inductive Stage where
  | unloaded
  | loaded
  | instantiated
  | closed
  deriving DecidableEq, Inhabited

/-- The spelling of a stage. -/
def Stage.text : Stage → String
  | .unloaded => "unloaded"
  | .loaded => "loaded"
  | .instantiated => "instantiated"
  | .closed => "closed"

/-- What stops guest code. -/
inductive Trap where
  | unreachable
  | memoryOutOfBounds
  | divisionByZero
  | integerOverflow
  | stackExhausted
  /-- Code that no validator accepts, such as an operation without its operands. -/
  | illTyped
  /-- Any other wording, as raised by a host function. -/
  | stated (text : String)
  deriving DecidableEq

/-- The wording of a trap. -/
def Trap.text : Trap → String
  | .unreachable => "wasm trap: wasm \x60unreachable\x60 instruction executed"
  | .memoryOutOfBounds => "wasm trap: out of bounds memory access"
  | .divisionByZero => "wasm trap: integer divide by zero"
  | .integerOverflow => "wasm trap: integer overflow"
  | .stackExhausted => "wasm trap: call stack exhausted"
  | .illTyped => "wasm trap: ill-typed code"
  | .stated text => text

/-- Why a function does not have the signature that its use needs. -/
inductive Mismatch where
  | exportNotInteger (type : Wasm.FuncType)
  | argument (index : Nat) (given expected : NumType)
  | deallocatorArity (count : Nat)
  | importNotInteger
  | importDiffers (wanted provided : Signature)
  | resultsDiffer (values : List Value) (declared : Signature)
  | stated (text : String)
  deriving DecidableEq

/-- The wording of a mismatch. -/
def Mismatch.text : Mismatch → String
  | .exportNotInteger type => s!"export uses non-integer types: {type.text}"
  | .argument index given expected =>
    s!"argument {index} is {given.text}, parameter is {expected.text}"
  | .deallocatorArity count => s!"deallocator takes {count} parameters, expected 1 or 2"
  | .importNotInteger => "guest import uses non-integer types"
  | .importDiffers wanted provided =>
    s!"guest imports {wanted.text}, host provides {provided.text}"
  | .resultsDiffer values declared =>
    s!"implementation returned {debugValues values}, declared {declared.text}"
  | .stated text => text

/-- Why an allocation did not give a buffer. -/
inductive Refusal where
  | zeroLength
  | missing (name : String)
  /-- The allocator itself failed, with this message. -/
  | failed (message : String)
  | wrongResults (values : List Value)
  | null
  | outOfBounds (pointer : UInt32)
  | tooLarge
  | stated (text : String)
  deriving DecidableEq

/-- The wording of a refused allocation. -/
def Refusal.text : Refusal → String
  | .zeroLength => "zero-length allocation"
  | .missing name => s!"no allocator export '{name}'"
  | .failed message => message
  | .wrongResults values => s!"allocator must return one i32 pointer, got {debugValues values}"
  | .null => "allocator returned null"
  | .outOfBounds pointer => s!"allocator returned out-of-bounds pointer {pointer.toNat}"
  | .tooLarge => "payload larger than 4 GiB"
  | .stated text => text

/-- Why a result list carries no span. -/
inductive Malformed where
  | noSpan (values : List Value)
  | wrongForm (form : ResultForm) (values : List Value)
  | stated (text : String)
  deriving DecidableEq

/-- The wording of a malformed result. -/
def Malformed.text : Malformed → String
  | .noSpan values => s!"expected one i64 or two i32 results, got {debugValues values}"
  | .wrongForm form values => s!"{form.text} encoding cannot decode results {debugValues values}"
  | .stated text => text

/-- Why a module is not usable. -/
inductive Invalid where
  | unreadable
  | repeatedExport (name : String)
  | repeatedFunction (id : String)
  | repeatedGlobal (id : String)
  /-- Limits that are not ordered, or beyond what any memory or table can have. -/
  | limits
  /-- An export shows an item that the module does not have. -/
  | emptyExport (name : String)
  | segmentsWithoutMemory
  /-- The start function is missing, or takes or gives values. -/
  | startFunction (id : String)
  /-- A body refers to what is not there, or leaves an instruction without its operands. -/
  | illTyped (function : String)
  /-- The module lacks the exported memory that the protocol needs. -/
  | memoryRequired (name : String)
  /-- The calling context shows no memory under the name. -/
  | memoryMissing (name : String)
  | stated (text : String)
  deriving DecidableEq

/-- The wording of an unusable module. -/
def Invalid.text : Invalid → String
  | .unreadable => "not a module"
  | .repeatedExport name => s!"duplicate export name '{name}'"
  | .repeatedFunction id => s!"duplicate function '{id}'"
  | .repeatedGlobal id => s!"duplicate global '{id}'"
  | .limits => "size limits are not valid"
  | .emptyExport name => s!"export '{name}' shows an unknown item"
  | .segmentsWithoutMemory => "data segments need a memory"
  | .startFunction id => s!"'{id}' cannot be the start function"
  | .illTyped function => s!"the body of '{function}' is ill-typed"
  | .memoryRequired name => s!"module must export memory '{name}'"
  | .memoryMissing name => s!"no memory export '{name}'"
  | .stated text => text

/-- Everything that can go wrong at the boundary. -/
inductive Fault where
  | outOfBounds (offset length size : Nat)
  | unresolvedImport (space name : String)
  | signatureMismatch (name : String) (why : Mismatch)
  | exportNotFound (name : String)
  | arityMismatch (name : String) (expected actual : Nat)
  | allocationFailed (length : UInt32) (why : Refusal)
  | invalidModule (why : Invalid)
  | duplicateHostFunction (space name : String)
  | releaseRejected (owner : Ownership)
  | malformedResult (why : Malformed)
  | invalidState (expected actual : Stage)
  | guestTrapped (trap : Trap)
  | fuelExhausted
  /-- Any other failure of the engine that runs guest code. -/
  | engine (text : String)
  deriving DecidableEq

/-- A host function's namespace and name in one. -/
def qualified (space name : String) : String := s!"{space}::{name}"

/-- The message of a fault. -/
def Fault.message : Fault → String
  | .outOfBounds offset length size =>
    s!"out of bounds: offset {offset} + length {length} exceeds memory size {size}"
  | .unresolvedImport space name => "unresolved import " ++ qualified space name
  | .signatureMismatch name why => s!"signature mismatch for {name}: {why.text}"
  | .exportNotFound name => s!"export not found: {name}"
  | .arityMismatch name expected actual =>
    s!"arity mismatch calling {name}: expected {expected} arguments, got {actual}"
  | .allocationFailed length why => s!"allocation of {length.toNat} bytes failed: {why.text}"
  | .invalidModule why => s!"invalid module: {why.text}"
  | .duplicateHostFunction space name => "duplicate host function " ++ qualified space name
  | .releaseRejected owner => s!"cannot release a {owner.text} buffer"
  | .malformedResult why => s!"malformed result: {why.text}"
  | .invalidState expected actual => s!"module is {actual.text}, expected {expected.text}"
  | .guestTrapped trap => s!"guest trapped: {trap.text}"
  | .fuelExhausted => "fuel exhausted (instruction limit)"
  | .engine text => s!"wasmtime error: {text}"

/-- The kind of a fault. -/
def Fault.kind : Fault → String
  | .outOfBounds .. => "OutOfBounds"
  | .unresolvedImport .. => "UnresolvedImport"
  | .signatureMismatch .. => "SignatureMismatch"
  | .exportNotFound .. => "ExportNotFound"
  | .arityMismatch .. => "ArityMismatch"
  | .allocationFailed .. => "AllocationFailed"
  | .invalidModule .. => "InvalidModule"
  | .duplicateHostFunction .. => "DuplicateHostFunction"
  | .releaseRejected .. => "ReleaseRejected"
  | .malformedResult .. => "MalformedResult"
  | .invalidState .. => "InvalidState"
  | .guestTrapped .. => "GuestTrapped"
  | .fuelExhausted => "FuelExhausted"
  | .engine .. => "Wasmtime"

/-- A description without the type listing that an engine appends to it. -/
def withoutTypeListing (text : String) : String :=
  match text.splitOn "non-integer types: " with
  | head :: _ :: _ => head ++ "non-integer types"
  | _ => text

/-- The message that a report of a fault shows: none where the wording is the engine's own. -/
def Fault.report? : Fault → Option String
  | .engine _ => none
  | .invalidModule why =>
    let known := ["module must export memory '", "no memory export '"]
    if known.any (fun start => start.isPrefixOf why.text) then
      some (withoutTypeListing (Fault.invalidModule why).message)
    else none
  | fault => some (withoutTypeListing fault.message)

end GuestBoundary
