import GuestBoundary.Program.Memory
import GuestBoundary.Results

/-! Allocation: buffers asked of the guest allocator, and given back to it. -/

namespace GuestBoundary

namespace Program

/-- The fault of an allocation whose allocator failed. A missing export, a trap and a wrong shape
are the allocation's failure; anything else passes as it is. -/
def allocatorFault (length : UInt32) (allocator : String) : Fault → Fault
  | .exportNotFound _ => .allocationFailed length (.missing allocator)
  | .guestTrapped trap => .allocationFailed length (.failed (Fault.guestTrapped trap).message)
  | .arityMismatch name expected actual =>
    .allocationFailed length (.failed (Fault.arityMismatch name expected actual).message)
  | .signatureMismatch name why =>
    .allocationFailed length (.failed (Fault.signatureMismatch name why).message)
  | fault => fault

/-- The buffer at the pointer in an allocator's result list, if memory holds it now. -/
def allocated (length : UInt32) : List Value → Program Buffer
  | [.i32 pointer] =>
    if pointer = 0 then .fail (.allocationFailed length .null)
    else do
      -- The allocator may have grown memory, so its size is asked for only now.
      let view ← View.resolve
      match checkRange (← view.size) pointer length with
      | .ok _ => return ⟨⟨pointer, length⟩, .hostOwned⟩
      | .error _ => .fail (.allocationFailed length (.outOfBounds pointer))
  | values => .fail (.allocationFailed length (.wrongResults values))

/-- Ask the guest allocator for a buffer, which the host then owns. -/
def allocate (length : UInt32) : Program Buffer :=
  if length = 0 then .fail (.allocationFailed length .zeroLength)
  else do
    let allocator := (← conventions).allocExport
    match ← (invoke allocator [.i32 length]).attempt with
    | .ok values => allocated length values
    | .error fault => .fail (allocatorFault length allocator fault)

/-- The arguments that a deallocator of an arity takes for a buffer. -/
def deallocatorArguments (deallocator : String) (buffer : Buffer) : Nat → Except Fault (List Value)
  | 1 => .ok [.i32 buffer.pointer]
  | 2 => .ok [.i32 buffer.pointer, .i32 buffer.length]
  | count => .error (.signatureMismatch deallocator (.deallocatorArity count))

/-- Give a buffer that the host owns back to the guest. Without a deallocator nothing happens. -/
def release (buffer : Buffer) : Program Unit := do
  settle buffer.checkRelease
  match (← conventions).freeExport with
  | none => return ()
  | some deallocator =>
    -- A guest need not have the deallocator that the conventions name.
    if ← hasExport deallocator then do
      let declared ← signature deallocator
      let arguments ← settle (deallocatorArguments deallocator buffer declared.arity)
      let _ ← invoke deallocator arguments
      return ()
    else return ()

/-- Give a buffer back after a failure, which matters more than a failure to do so. -/
def releaseAfterFailure (buffer : Buffer) : Program Unit := do
  let _ ← (release buffer).attempt
  return ()

end Program

end GuestBoundary
