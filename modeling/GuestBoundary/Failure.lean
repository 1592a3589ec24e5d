import GuestBoundary.Fault

/-! Failures: how the engine ends a run of guest code, and the faults that the host makes of them. -/

namespace GuestBoundary

/-- Why the engine ended a run of guest code. -/
inductive Failure where
  | trap (trap : Trap)
  | outOfFuel
  /-- A host function raised a fault, which travels through guest code as it is. -/
  | raised (fault : Fault)
  /-- Anything else that the engine refuses. -/
  | refused (text : String)
  deriving DecidableEq

/-- The fault that a failure is for the host. A fault that was raised is recovered unchanged. -/
def Failure.fault : Failure → Fault
  | .raised fault => fault
  | .outOfFuel => .fuelExhausted
  | .trap cause => .guestTrapped cause
  | .refused text => .engine text

end GuestBoundary
