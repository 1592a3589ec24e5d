import GuestBoundary.Fault

/-! The names that host and guest agree on, and the limits that a sandbox sets. -/

namespace GuestBoundary

/-- The names that the protocol relies on. -/
structure Conventions where
  /-- The namespace from which guests import host functions. -/
  space : String
  memoryExport : String
  allocExport : String
  /-- Without a deallocator, host allocations are never returned to the guest. -/
  freeExport : Option String
  deriving DecidableEq

/-- The names that hold where none are given. -/
def Conventions.default : Conventions := ⟨"env", "memory", "malloc", some "free"⟩

instance : Inhabited Conventions := ⟨.default⟩

/-- What a sandbox allows its guests, and the names it relies on. -/
structure Settings where
  maxMemoryPages : UInt32
  /-- The fuel of one instance; without a limit nothing is metered. -/
  fuelLimit : Option UInt64
  enableGuestLogs : Bool
  maxLogLines : UInt64
  /-- Whether guests may import the system interface. -/
  wasi : Bool
  wasiInheritStdio : Bool
  conventions : Conventions
  deriving DecidableEq

/-- The settings that hold where none are given. -/
def Settings.default : Settings := ⟨256, none, true, 256, false, true, .default⟩

instance : Inhabited Settings := ⟨.default⟩

/-- The bytes in a page of linear memory. -/
def pageSize : Nat := 65536

/-- The largest linear memory in bytes. -/
def Settings.maxMemoryBytes (settings : Settings) : Nat :=
  settings.maxMemoryPages.toNat * pageSize

end GuestBoundary
