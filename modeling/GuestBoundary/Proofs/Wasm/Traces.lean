import GuestBoundary.Proofs.Wasm.Steps

/-! Traces of guest code: what the functions that it calls leave behind, one call after another. The code
itself leaves nothing behind but its store. -/

namespace GuestBoundary

/-- What a run leaves behind besides its store, by the store that it starts from. -/
abbrev Trace (ε : Type) := Store → List ε

namespace Trace

variable {ε α : Type}

/-- Nothing is left behind. -/
def silent : Trace ε := fun _ => []

/-- A trace that goes on with the value of its run; after a run that fails there is nothing more. -/
def andThen (first : Trace ε) (run : Run α) (rest : α → Trace ε) : Trace ε := fun store =>
  first store ++
    match run store with
    | some (.ok value, left) => rest value left
    | _ => []

theorem andThen_silent (first : Trace ε) (run : Run α) :
    (first.andThen run fun _ => silent) = first := by
  funext store
  unfold andThen
  split <;> simp [silent]

/-- Relations between stores that depend on what is left behind on the way from one to the other, piece
by piece. -/
structure Composes (leads : List ε → Store → Store → Prop) : Prop where
  refl : ∀ store, leads [] store store
  append : ∀ {first second : List ε} {store middle left : Store}, leads first store middle →
    leads second middle left → leads (first ++ second) store left

/-- Where nothing is left behind, such a relation is one that runs may keep. -/
theorem Composes.still {leads : List ε → Store → Store → Prop} (composes : Composes leads) :
    Run.Composes (leads []) :=
  ⟨composes.refl, composes.append⟩

end Trace

namespace Run

variable {ε α β : Type} {leads : List ε → Store → Store → Prop}

/-- However a run ends, its trace leads from its store to the one that it leaves. -/
def Traced (leads : List ε → Store → Store → Prop) (trace : Trace ε) (run : Run α) : Prop :=
  ∀ store outcome left, run store = some (outcome, left) → leads (trace store) store left

/-- A run that leaves nothing behind only has to keep the relation. -/
theorem traced_silent {run : Run α} (keeps : run.Keeps (leads [])) : run.Traced leads .silent := keeps

theorem traced_pure (composes : Trace.Composes leads) (value : α) :
    (pure value : Run α).Traced leads .silent := traced_silent (keeps_pure composes.still value)

theorem traced_trap (composes : Trace.Composes leads) (cause : Trap) :
    (trap cause : Run α).Traced leads .silent := traced_silent (keeps_trap composes.still cause)

/-- A run in two parts has their traces, one after the other. -/
theorem traced_bind (composes : Trace.Composes leads) {run : Run α} {next : α → Run β}
    {trace : Trace ε} {rest : α → Trace ε} (first : run.Traced leads trace)
    (goesOn : ∀ value, (next value).Traced leads (rest value)) :
    (run >>= next).Traced leads (trace.andThen run rest) := by
  -- A failure of the first part is one of the whole, and nothing follows it.
  intro store outcome left ran
  rw [bind_apply] at ran
  unfold Trace.andThen
  split at ran
  · cases ran
  · rename_i value middle done
    rw [done]
    exact composes.append (first _ _ _ done) (goesOn value _ _ _ ran)
  · rename_i failure middle failed
    cases ran
    rw [failed]
    simpa using first _ _ _ failed

/-- What only keeps the relation at the end of a run adds nothing to its trace. -/
theorem traced_last (composes : Trace.Composes leads) {run : Run α} {next : α → Run β}
    {trace : Trace ε} (first : run.Traced leads trace)
    (last : ∀ value, (next value).Keeps (leads [])) : (run >>= next).Traced leads trace := by
  have both := traced_bind composes first fun value => traced_silent (last value)
  rwa [Trace.andThen_silent] at both

theorem traced_map (composes : Trace.Composes leads) {run : Run α} {trace : Trace ε}
    (first : run.Traced leads trace) (f : α → β) :
    (do return f (← run) : Run β).Traced leads trace :=
  traced_last composes first fun _ => keeps_pure composes.still _

end Run

namespace Wasm

variable {ε : Type}

/-- The trace of a loop, iteration by iteration. -/
def loopTrace (body : List Value → Run Flow) (inside : List Value → Trace ε) :
    Nat → List Value → Trace ε
  | 0, _ => .silent
  | patience + 1, locals =>
    Trace.andThen .silent Run.charge fun _ => (inside locals).andThen (body locals) fun
      | .branch 0 frame => loopTrace body inside patience frame.locals
      | _ => .silent

/-- The trace of a call, which is that of the function that is called. -/
def callTrace (surroundings : Surroundings) (calls : String → List Value → Trace ε)
    (function : String) (frame : Frame) : Trace ε :=
  match surroundings.callable? function with
  | none => .silent
  | some callable =>
    match takeOperands callable.params frame.stack with
    | none => .silent
    | some (operands, _) => calls function operands

mutual

/-- The trace of one instruction. -/
def instructionTrace (surroundings : Surroundings) (calls : String → List Value → Trace ε) :
    Instruction → Frame → Trace ε
  | .block body, frame => codeTrace surroundings calls body ⟨[], frame.locals⟩
  | .loop body, frame =>
    loopTrace (fun locals => executeAll surroundings body ⟨[], locals⟩)
      (fun locals => codeTrace surroundings calls body ⟨[], locals⟩)
      surroundings.patience frame.locals
  | .branch yes no, ⟨.i32 condition :: _, locals⟩ =>
    if condition = 0 then codeTrace surroundings calls no ⟨[], locals⟩
    else codeTrace surroundings calls yes ⟨[], locals⟩
  | .call function, frame => callTrace surroundings calls function frame
  | _, _ => .silent

/-- The trace of instructions in order, until control goes elsewhere. -/
def codeTrace (surroundings : Surroundings) (calls : String → List Value → Trace ε) :
    List Instruction → Frame → Trace ε
  | [], _ => .silent
  | instruction :: rest, frame =>
    (instructionTrace surroundings calls instruction frame).andThen
      (execute surroundings instruction frame) fun
        | .next after => codeTrace surroundings calls rest after
        | _ => .silent

end

/-- The trace of a function that is run with arguments. -/
def Function.trace (surroundings : Surroundings) (calls : String → List Value → Trace ε)
    (function : Function) (arguments : List Value) : Trace ε :=
  Trace.andThen .silent Run.charge fun _ =>
    codeTrace surroundings calls function.body ⟨[], arguments ++ function.locals.map (·.value 0)⟩

section

variable {leads : List ε → Store → Store → Prop} {surroundings : Surroundings}
  {calls : String → List Value → Trace ε}

/-- What guest code can call leads where its trace says. -/
def Surroundings.CallsTraced (surroundings : Surroundings) (leads : List ε → Store → Store → Prop)
    (calls : String → List Value → Trace ε) : Prop :=
  ∀ function callable, surroundings.callable? function = some callable →
    ∀ operands, (callable.run operands).Traced leads (calls function operands)

theorem callFunction_traced (composes : Trace.Composes leads)
    (traced : surroundings.CallsTraced leads calls) (function : String) (frame : Frame) :
    (callFunction surroundings function frame).Traced leads
      (callTrace surroundings calls function frame) := by
  -- A call that is not well formed traps, and any other is what it calls.
  unfold callFunction callTrace
  cases found : surroundings.callable? function with
  | none => exact Run.traced_trap composes _
  | some callable =>
    dsimp only
    cases takeOperands callable.params frame.stack with
    | none => exact Run.traced_trap composes _
    | some taken => exact Run.traced_map composes (traced function callable found taken.1) _

theorem iterate_traced (composes : Trace.Composes leads) {maxPages : Nat}
    (step : ∀ {store left}, GuestStep maxPages store left → leads [] store left)
    {body : List Value → Run Flow} {inside : List Value → Trace ε}
    (bodies : ∀ locals, (body locals).Traced leads (inside locals)) (outer : List Value)
    (patience : Nat) (locals : List Value) :
    (iterate body outer patience locals).Traced leads
      (loopTrace body inside patience locals) := by
  -- Each iteration is charged, runs the body once, and leads to the next one or out of the loop.
  induction patience generalizing locals with
  | zero => exact Run.keeps_endless
  | succ patience ih =>
    refine Run.traced_bind composes (Run.traced_silent (charge_keeps composes.still step)) fun _ =>
      Run.traced_bind composes (bodies locals) fun flow => ?_
    match flow with
    | .branch 0 frame => exact ih _
    | .branch (_ + 1) _ | .next _ | .leave _ => exact Run.traced_pure composes _

mutual

/-- An instruction leads where the traces of the functions that it calls say. -/
theorem execute_traced (composes : Trace.Composes leads)
    (step : ∀ {store left}, GuestStep surroundings.maxPages store left → leads [] store left)
    (traced : surroundings.CallsTraced leads calls) (instruction : Instruction) (frame : Frame) :
    (execute surroundings instruction frame).Traced leads
      (instructionTrace surroundings calls instruction frame) := by
  -- A construct has the trace of the code inside it, and of the other instructions only calls have one.
  unfold instructionTrace
  split
  · rename_i body
    exact Run.traced_map composes (executeAll_traced composes step traced body _) _
  · rename_i body
    exact iterate_traced composes step (fun _ => executeAll_traced composes step traced body _) _ _ _
  · rename_i yes no condition rest locals
    unfold execute
    dsimp only
    split
    · exact Run.traced_map composes (executeAll_traced composes step traced no _) _
    · exact Run.traced_map composes (executeAll_traced composes step traced yes _) _
  · exact Run.traced_map composes (callFunction_traced composes traced _ _) _
  · rename_i block loop call branch
    unfold execute
    split
    · exact absurd rfl (block _)
    · exact absurd rfl (loop _)
    · exact (branch _ _ _ _ _ rfl rfl).elim
    · exact Run.traced_pure composes _
    · split
      · exact Run.traced_pure composes _
      · exact Run.traced_pure composes _
    · exact Run.traced_pure composes _
    · exact absurd rfl (call _)
    · exact Run.traced_map composes
        (Run.traced_silent (simple_keeps composes.still surroundings step _ _)) _

/-- Instructions in order lead where their traces say, one after another. -/
theorem executeAll_traced (composes : Trace.Composes leads)
    (step : ∀ {store left}, GuestStep surroundings.maxPages store left → leads [] store left)
    (traced : surroundings.CallsTraced leads calls) (code : List Instruction)
    (frame : Frame) :
    (executeAll surroundings code frame).Traced leads
      (codeTrace surroundings calls code frame) := by
  -- The first instruction runs, and then the rest does unless control went elsewhere.
  cases code with
  | nil => exact Run.traced_pure composes _
  | cons instruction rest =>
    unfold executeAll codeTrace
    refine Run.traced_bind composes (execute_traced composes step traced instruction frame) fun flow => ?_
    match flow with
    | .next after => exact executeAll_traced composes step traced rest after
    | .branch _ _ | .leave _ => exact Run.traced_pure composes _

end

/-- A function leads where the trace of its code says. -/
theorem Function.run_traced (composes : Trace.Composes leads)
    (step : ∀ {store left}, GuestStep surroundings.maxPages store left → leads [] store left)
    (traced : surroundings.CallsTraced leads calls) (function : Function)
    (arguments : List Value) :
    (function.run surroundings arguments).Traced leads
      (function.trace surroundings calls arguments) := by
  -- The charge leaves nothing behind, and neither does what follows the code.
  refine Run.traced_bind composes (Run.traced_silent (charge_keeps composes.still step)) fun _ =>
    Run.traced_last composes (executeAll_traced composes step traced _ _) fun flow => ?_
  split
  · exact takeResults_keeps composes.still _ _
  · exact takeResults_keeps composes.still _ _
  · exact takeResults_keeps composes.still _ _
  · exact Run.keeps_trap composes.still _

end

/-- A function of a guest keeps what the steps of a guest and the functions that it calls keep. -/
theorem Function.run_keeps {relation : Store → Store → Prop} (composes : Run.Composes relation)
    {surroundings : Surroundings}
    (step : ∀ {store left}, GuestStep surroundings.maxPages store left → relation store left)
    (calls : surroundings.CallsKeep relation) (function : Function) (arguments : List Value) :
    (function.run surroundings arguments).Keeps relation := by
  -- To keep a relation is to lead along it, whatever is left behind.
  have leads : Trace.Composes fun (_ : List Unit) => relation := ⟨composes.refl, composes.trans⟩
  have traced : surroundings.CallsTraced (fun (_ : List Unit) => relation) fun _ _ => .silent := calls
  exact function.run_traced leads step traced arguments

end Wasm

end GuestBoundary
