import GuestBoundary.Program.Allocation

/-! Moving bytes across the boundary: out of result spans, into allocations, and through out slots. -/

namespace GuestBoundary

namespace Program

/-- A span that lies inside guest memory, as a buffer of the guest. -/
def guestBuffer (span : Span) : Program Buffer := do
  let view ← View.resolve
  settle (checkRange (← view.size) span.pointer span.length)
  return ⟨span, .guestOwned⟩

/-- The guest's buffer that a result list of either form describes. -/
def readGuestBuffer (values : List Value) : Program Buffer := do
  guestBuffer (← settle (readSpan values))

/-- The bytes that a result list of one form describes. -/
def readResult (values : List Value) (form : ResultForm) : Program (List UInt8) := do
  let buffer ← guestBuffer (← settle (form.readSpan values))
  readBytes buffer.span

/-- Place bytes in a new allocation, which the host then owns. -/
def copyIn (bytes : List UInt8) : Program Buffer :=
  if bytes.length < UInt32.size then do
    -- Memory is looked up before the allocator runs.
    let view ← View.resolve
    let buffer ← allocate (UInt32.ofNat bytes.length)
    match ← (view.write buffer.pointer bytes).attempt with
    | .ok _ => return buffer
    | .error fault => do
      releaseAfterFailure buffer
      .fail fault
  else .fail (.allocationFailed 0xFFFFFFFF .tooLarge)

/-- Run a body with bytes placed in guest memory, and release them however the body ends. A fault
of the body counts before one of the release; no bytes need no allocation. -/
def withGuestBytes {α : Type} (bytes : List UInt8) (body : Buffer → Program α) : Program α :=
  if bytes = [] then body .nothing
  else do
    let buffer ← copyIn bytes
    note (.opened buffer.span)
    -- The body may fail, but the scope goes on to its release in any case.
    let outcome ← (body buffer).attempt
    note (.closing buffer.span)
    match outcome with
    | .ok value => do
      release buffer
      return value
    | .error fault => do
      releaseAfterFailure buffer
      .fail fault

/-- Call an export with the span of placed bytes, and copy out the bytes it answers. -/
def callWithBytes (name : String) (bytes : List UInt8) (form : ResultForm) :
    Program (List UInt8) :=
  withGuestBytes bytes fun buffer => do
    readResult (← invoke name buffer.span.pair) form

/-- Call an export with a text, and decode the text it answers. -/
def callWithText (name text : String) (form : ResultForm) : Program String :=
  return Utf8.decode (← callWithBytes name (Utf8.encode text) form)

/-- Call an export, and copy out the bytes that its results describe. -/
def callReturningBytes (name : String) (arguments : List Value) (form : ResultForm) :
    Program (List UInt8) := do
  readResult (← invoke name arguments) form

/-- Deliver bytes to the guest: place them in a new allocation, which the guest then owns, and
write its pointer and length into two slots. Both slots are checked before anything else. -/
def writeOutSlots (bytes : List UInt8) (pointerSlot lengthSlot : UInt32) : Program Buffer := do
  let view ← View.resolve
  let size ← view.size
  settle (checkRange size pointerSlot 4)
  settle (checkRange size lengthSlot 4)
  -- From here on only the allocation can fail, since memory never shrinks.
  if bytes = [] then do
    view.writeWord pointerSlot 0
    view.writeWord lengthSlot 0
    return ⟨⟨0, 0⟩, .guestOwned⟩
  else do
    let buffer ← copyIn bytes
    view.writeWord pointerSlot buffer.pointer
    view.writeWord lengthSlot buffer.length
    return buffer.intoGuest

end Program

end GuestBoundary
