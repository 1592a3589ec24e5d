import GuestBoundary.Proofs.Wasm.Reach

/-! What guest code fails with: traps of its own, an empty meter, and the failures of what it calls. -/

namespace GuestBoundary

namespace Run

variable {α : Type}

/-- Every failure of a run is an allowed one. -/
def FailsAs (allowed : Failure → Prop) (run : Run α) : Prop :=
  ∀ store failure left, run store = some (.error failure, left) → allowed failure

section

variable {allowed : Failure → Prop}

theorem failsAs_pure (value : α) : (pure value : Run α).FailsAs allowed := by
  -- A value is no failure.
  rintro store failure left ⟨⟩

theorem failsAs_throw {failure : Failure} (holds : allowed failure) :
    (throw failure : Run α).FailsAs allowed := by
  rintro store raised left ⟨⟩
  exact holds

end

end Run

namespace Wasm

/-- The failures that guest code comes to by itself are allowed. -/
structure AllowsOwn (allowed : Failure → Prop) : Prop where
  trap : ∀ cause, allowed (.trap cause)
  outOfFuel : allowed .outOfFuel

/-- Everything that a body can call fails only as allowed. -/
def Surroundings.CallsFailAs (surroundings : Surroundings) (allowed : Failure → Prop) : Prop :=
  ∀ function callable, surroundings.callable? function = some callable →
    ∀ operands, (callable.run operands).FailsAs allowed

section

variable {allowed : Failure → Prop} {α : Type}

theorem trap_failsAs (own : AllowsOwn allowed) (cause : Trap) :
    (Run.trap cause : Run α).FailsAs allowed := Run.failsAs_throw (own.trap cause)

theorem failsAs_of_trapsInPlace (own : AllowsOwn allowed) {run : Run α} (traps : TrapsInPlace run) :
    run.FailsAs allowed := by
  intro store failure left failed
  obtain ⟨_, cause, rfl⟩ := traps store failure left failed
  exact own.trap cause

theorem charge_failsAs (own : AllowsOwn allowed) : Run.charge.FailsAs allowed := by
  -- Only an empty meter fails.
  intro store failure left failed
  rw [Run.charge_apply] at failed
  split at failed
  · cases failed
  · cases failed
    exact own.outOfFuel
  · cases failed

/-- A result list that does not have the declared types is a trap. -/
theorem takeResults_failsAs (own : AllowsOwn allowed) (types : List ValType) (stack : List Value) :
    (takeResults types stack).FailsAs allowed := by
  unfold takeResults
  dsimp only
  split
  · exact Run.failsAs_pure _
  · exact trap_failsAs own _

end

end Wasm

end GuestBoundary
