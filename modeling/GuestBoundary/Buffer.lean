import GuestBoundary.Span

/-! Buffers: spans tagged with the side that owns them. -/

namespace GuestBoundary

/-- The side that is responsible for the lifetime of a buffer. -/
inductive Ownership where
  /-- Allocated by the host through the guest allocator, so the host must release it. -/
  | hostOwned
  /-- Produced by the guest or handed over to it, so the host must never release it. -/
  | guestOwned
  /-- Valid for the current call alone. -/
  | borrowed
  deriving DecidableEq, Inhabited

/-- The spelling of an ownership. -/
def Ownership.text : Ownership → String
  | .hostOwned => "host-owned"
  | .guestOwned => "guest-owned"
  | .borrowed => "borrowed"

/-- A span of guest memory with its owner. -/
structure Buffer where
  span : Span
  owner : Ownership
  deriving DecidableEq, Inhabited

namespace Buffer

/-- The address of the first byte. -/
def pointer (buffer : Buffer) : UInt32 := buffer.span.pointer

/-- The number of bytes. -/
def length (buffer : Buffer) : UInt32 := buffer.span.length

/-- A buffer without bytes. -/
def isEmpty (buffer : Buffer) : Bool := buffer.length == 0

/-- The empty buffer at address zero that stands for absent bytes. -/
def nothing : Buffer := ⟨⟨0, 0⟩, .borrowed⟩

/-- Hand a buffer over to the guest, whoever owned it. -/
def intoGuest (buffer : Buffer) : Buffer := { buffer with owner := .guestOwned }

/-- The span of a buffer as one word. -/
def packed (buffer : Buffer) : UInt64 := buffer.span.packed

/-- The buffer at the span in a word. -/
def ofPacked (word : UInt64) (owner : Ownership) : Buffer := ⟨.ofPacked word, owner⟩

end Buffer

end GuestBoundary
