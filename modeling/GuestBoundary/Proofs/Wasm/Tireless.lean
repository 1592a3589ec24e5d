import GuestBoundary.Proofs.Wasm.Reach
import GuestBoundary.Proofs.Wasm.Steps

/-! Guest code without a meter: it does not run out of fuel, unless something that it calls says so. -/

namespace GuestBoundary

namespace Run

variable {α β : Type}

/-- Started without a meter, a run leaves no meter behind and does not end for want of fuel. -/
def Tireless (run : Run α) : Prop :=
  ∀ store outcome left, store.fuel = none → run store = some (outcome, left) →
    left.fuel = none ∧ ∀ failure, outcome = .error failure → failure.fault ≠ .fuelExhausted

theorem tireless_pure (value : α) : (pure value : Run α).Tireless := by
  rintro store outcome left unmetered ⟨⟩
  exact ⟨unmetered, nofun⟩

theorem tireless_trap (cause : Trap) : (trap cause : Run α).Tireless := by
  -- A trap is a fault of its own kind.
  rintro store outcome left unmetered ⟨⟩
  refine ⟨unmetered, ?_⟩
  rintro failure ⟨⟩
  exact Fault.noConfusion

theorem tireless_endless : (endless : Run α).Tireless := by
  rintro store outcome left unmetered ⟨⟩

/-- A sequence of runs is tireless if its parts are. -/
theorem tireless_bind {run : Run α} {next : α → Run β} (first : run.Tireless)
    (rest : ∀ value, (next value).Tireless) : (run >>= next).Tireless := by
  -- The second part starts from what the first one left, which has no meter either.
  intro store outcome left unmetered ran
  rw [bind_apply] at ran
  split at ran
  · cases ran
  · rename_i value middle done
    exact rest value middle outcome left (first _ _ _ unmetered done).1 ran
  · rename_i failure middle failed
    cases ran
    refine ⟨(first _ _ _ unmetered failed).1, ?_⟩
    rintro _ ⟨⟩
    exact (first _ _ _ unmetered failed).2 failure rfl

theorem tireless_map {run : Run α} (first : run.Tireless) (f : α → β) :
    (do return f (← run) : Run β).Tireless :=
  tireless_bind first fun _ => tireless_pure _

/-- Without a meter, a charge takes nothing. -/
theorem tireless_charge : charge.Tireless := by
  intro store outcome left unmetered ran
  rw [charge_apply, unmetered] at ran
  cases ran
  exact ⟨unmetered, nofun⟩

end Run

namespace Wasm

/-- The relation between stores where a meter does not appear. -/
def StaysUnmetered (store left : Store) : Prop := store.fuel = none → left.fuel = none

theorem staysUnmetered_composes : Run.Composes StaysUnmetered where
  refl _ := id
  trans first second := second ∘ first

/-- No step of a guest brings a meter. -/
theorem GuestStep.staysUnmetered {maxPages : Nat} {store left : Store}
    (step : GuestStep maxPages store left) : StaysUnmetered store left := by
  -- A charge only happens on a meter that is there already.
  intro unmetered
  cases step with
  | charge metered =>
    rw [unmetered] at metered
    cases metered
  | write | grow | assign => exact unmetered

/-- What keeps meters away and only traps is tireless. -/
theorem tireless_of_trapsInPlace {α : Type} {run : Run α} (keeps : run.Keeps StaysUnmetered)
    (traps : TrapsInPlace run) : run.Tireless := by
  intro store outcome left unmetered ran
  refine ⟨keeps store outcome left ran unmetered, ?_⟩
  rintro failure rfl
  obtain ⟨_, cause, rfl⟩ := traps store failure left ran
  exact Fault.noConfusion

theorem storeBytes_tireless (address : UInt32) (bytes : List UInt8) :
    (storeBytes address bytes).Tireless :=
  tireless_of_trapsInPlace
    (storeBytes_keeps staysUnmetered_composes
      (fun step : GuestStep 0 _ _ => step.staysUnmetered) _ _)
    (trapsInPlace_storeBytes _ _)

/-- Segments are placed without a charge. -/
theorem segments_tireless (segments : List Segment) :
    (segments.forM fun segment => storeBytes segment.offset segment.bytes).Tireless := by
  induction segments with
  | nil => exact Run.tireless_pure _
  | cons segment rest ih =>
    exact Run.tireless_bind (storeBytes_tireless _ _) fun _ => ih

/-- The results of a function are only looked at. -/
theorem takeResults_tireless (types : List ValType) (stack : List Value) :
    (takeResults types stack).Tireless := by
  unfold takeResults
  dsimp only
  split
  · exact Run.tireless_pure _
  · exact Run.tireless_trap _

section

variable {surroundings : Surroundings}

theorem simple_tireless (instruction : Instruction) (frame : Frame) :
    (simple surroundings instruction frame).Tireless :=
  tireless_of_trapsInPlace
    (simple_keeps staysUnmetered_composes surroundings GuestStep.staysUnmetered _ _)
    (trapsInPlace_simple _ _ _)

/-- Everything that a body can call is tireless. -/
def Surroundings.CallsTireless (surroundings : Surroundings) : Prop :=
  ∀ function callable, surroundings.callable? function = some callable →
    ∀ operands, (callable.run operands).Tireless

theorem callFunction_tireless (calls : surroundings.CallsTireless) (function : String)
    (frame : Frame) : (callFunction surroundings function frame).Tireless := by
  -- A call that is not well formed traps, and any other is what it calls.
  unfold callFunction
  split
  · exact Run.tireless_trap _
  · rename_i callable found
    split
    · exact Run.tireless_trap _
    · exact Run.tireless_map (calls function callable found _) _

theorem iterate_tireless {body : List Value → Run Flow} (bodies : ∀ locals, (body locals).Tireless)
    (outer : List Value) (patience : Nat) (locals : List Value) :
    (iterate body outer patience locals).Tireless := by
  -- Each iteration is charged for nothing, and leads to the next one or out of the loop.
  induction patience generalizing locals with
  | zero => exact Run.tireless_endless
  | succ patience ih =>
    refine Run.tireless_bind Run.tireless_charge fun _ =>
      Run.tireless_bind (bodies locals) fun flow => ?_
    match flow with
    | .branch 0 frame => exact ih _
    | .branch (_ + 1) _ | .next _ | .leave _ => exact Run.tireless_pure _

mutual

/-- An instruction is tireless where all that it can call is. -/
theorem execute_tireless (calls : surroundings.CallsTireless) (instruction : Instruction)
    (frame : Frame) : (execute surroundings instruction frame).Tireless := by
  -- A construct is the code inside it, and a call what is called.
  unfold execute
  split
  · rename_i body
    exact Run.tireless_map (executeAll_tireless calls body _) _
  · rename_i body
    exact iterate_tireless (fun _ => executeAll_tireless calls body _) _ _ _
  · rename_i yes no condition rest locals
    dsimp only
    split
    · exact Run.tireless_map (executeAll_tireless calls no _) _
    · exact Run.tireless_map (executeAll_tireless calls yes _) _
  · exact Run.tireless_pure _
  · split
    · exact Run.tireless_pure _
    · exact Run.tireless_pure _
  · exact Run.tireless_pure _
  · exact Run.tireless_map (callFunction_tireless calls _ _) _
  · exact Run.tireless_map (simple_tireless _ _) _

/-- Instructions in order are tireless where all that they can call is. -/
theorem executeAll_tireless (calls : surroundings.CallsTireless) (code : List Instruction)
    (frame : Frame) : (executeAll surroundings code frame).Tireless := by
  cases code with
  | nil => exact Run.tireless_pure _
  | cons instruction rest =>
    unfold executeAll
    refine Run.tireless_bind (execute_tireless calls instruction frame) fun flow => ?_
    match flow with
    | .next after => exact executeAll_tireless calls rest after
    | .branch _ _ | .leave _ => exact Run.tireless_pure _

end

/-- A function of a guest is tireless where all that it can call is. -/
theorem Function.run_tireless (calls : surroundings.CallsTireless) (function : Function)
    (arguments : List Value) : (function.run surroundings arguments).Tireless := by
  refine Run.tireless_bind Run.tireless_charge fun _ =>
    Run.tireless_bind (executeAll_tireless calls _ _) fun flow => ?_
  match flow with
  | .next _ | .leave _ | .branch 0 _ => exact takeResults_tireless _ _
  | .branch (_ + 1) _ => exact Run.tireless_trap _

end

end Wasm

end GuestBoundary
