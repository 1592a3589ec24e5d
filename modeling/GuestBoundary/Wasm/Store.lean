import GuestBoundary.Failure
import GuestBoundary.GuestLog
import GuestBoundary.Journal
import GuestBoundary.Region

/-! The store of an instance: everything that running it can change, and computations on it. -/

namespace GuestBoundary

/-- Everything that running an instance can change. -/
structure Store where
  memory : Region
  globals : List (String × Value)
  /-- The fuel left, if it is metered. -/
  fuel : Option Nat
  log : GuestLog
  journal : Journal

/-- The store with one more note in its journal. -/
def Store.note (store : Store) (event : Event) : Store :=
  { store with journal := event :: store.journal }

/-- A computation on a store ends with a value or a failure and leaves a store, however it ends.
It has no end at all if a loop goes on beyond the engine's patience. -/
abbrev Run (α : Type) := ExceptT Failure (StateT Store Option) α

namespace Run

variable {α : Type}

/-- Stop guest code. -/
def trap (trap : Trap) : Run α := throw (.trap trap)

/-- The computation without an end. -/
def endless : Run α := fun _ => none

/-- Use one unit of fuel if it is metered. Once none is left, none ever is. -/
def charge : Run Unit := do
  match (← get).fuel with
  | none => pure ()
  | some 0 => throw .outOfFuel
  | some (left + 1) => modify fun store => { store with fuel := some left }

/-- Guest access to memory traps where host access is a fault. -/
def access : Except Fault α → Run α
  | .ok value => pure value
  | .error _ => trap .memoryOutOfBounds

/-- Run host code on behalf of guest code: the engine carries a fault that it ends with. -/
def carry (host : Store → Option (Except Fault α × Store)) : Run α := fun store =>
  match host store with
  | none => none
  | some (outcome, left) => some (outcome.mapError .raised, left)

/-- Run guest code on behalf of the host, which sees a fault in place of a failure. -/
def surface (run : Run α) (store : Store) : Option (Except Fault α × Store) :=
  match run store with
  | none => none
  | some (outcome, left) => some (outcome.mapError Failure.fault, left)

end Run

end GuestBoundary
