import GuestBoundary.Proofs.Moments

/-! The moments of guest code: every charge and every instruction that passes operands on is one, and a
call has those of the function that is called. -/

namespace GuestBoundary

namespace Wasm

/-- The moments of a loop, whose iterations follow each other as long as the body branches to its
start. -/
def loopMoments (body : List Value → Run Flow) (inside : List Value → Store → List Moment) :
    Nat → List Value → Store → List Moment
  | 0, _, _ => []
  | patience + 1, locals, store =>
    Run.charge.moments .charged store ++ following (Run.charge store) fun _ charged =>
      inside locals charged ++ following (body locals charged) fun flow left =>
        match flow with
        | .branch 0 frame => loopMoments body inside patience frame.locals left
        | _ => []

/-- The moments of a call, which are those of the function that is called. -/
def callMoments (surroundings : Surroundings) (calls : String → List Value → Store → List Moment)
    (function : String) (frame : Frame) (store : Store) : List Moment :=
  match surroundings.callable? function with
  | none => []
  | some callable =>
    match takeOperands callable.params frame.stack with
    | none => []
    | some (operands, _) => calls function operands store

mutual

/-- The moments of one instruction. -/
def instructionMoments (surroundings : Surroundings)
    (calls : String → List Value → Store → List Moment) :
    Instruction → Frame → Store → List Moment
  | .block body, frame, store => codeMoments surroundings calls body ⟨[], frame.locals⟩ store
  | .loop body, frame, store =>
    loopMoments (fun locals => executeAll surroundings body ⟨[], locals⟩)
      (fun locals => codeMoments surroundings calls body ⟨[], locals⟩)
      surroundings.patience frame.locals store
  | .branch yes no, ⟨.i32 condition :: _, locals⟩, store =>
    if condition = 0 then codeMoments surroundings calls no ⟨[], locals⟩ store
    else codeMoments surroundings calls yes ⟨[], locals⟩ store
  -- Where control only goes elsewhere, nothing happens to the store.
  | .br _, _, _ => []
  | .brIf _, ⟨.i32 _ :: _, _⟩, _ => []
  | .ret, _, _ => []
  | .call function, frame, store => callMoments surroundings calls function frame store
  | instruction, frame, store =>
    (simple surroundings instruction frame).moments (.executed instruction frame) store

/-- The moments of instructions in order, until control goes elsewhere. -/
def codeMoments (surroundings : Surroundings)
    (calls : String → List Value → Store → List Moment) :
    List Instruction → Frame → Store → List Moment
  | [], _, _ => []
  | instruction :: rest, frame, store =>
    instructionMoments surroundings calls instruction frame store ++
      following (execute surroundings instruction frame store) fun flow left =>
        match flow with
        | .next after => codeMoments surroundings calls rest after left
        | _ => []

end

/-- The moments of a function that is run with arguments. -/
def Function.moments (surroundings : Surroundings)
    (calls : String → List Value → Store → List Moment) (function : Function)
    (arguments : List Value) (store : Store) : List Moment :=
  Run.charge.moments .charged store ++ following (Run.charge store) fun _ charged =>
    codeMoments surroundings calls function.body
      ⟨[], arguments ++ function.locals.map (·.value 0)⟩ charged

section

variable {linked : Linked} {surroundings : Surroundings}
  {calls : String → List Value → Store → List Moment}

/-- The functions that guest code can call are told of. -/
def CallsTold (linked : Linked) (surroundings : Surroundings)
    (calls : String → List Value → Store → List Moment) : Prop :=
  ∀ function callable, surroundings.callable? function = some callable →
    ∀ operands earlier store,
      Told linked earlier store (calls function operands store) (callable.run operands store)

theorem charge_told (earlier : List Moment) (store : Store) :
    Told linked earlier store (Run.charge.moments .charged store) (Run.charge store) :=
  told_run fun _ _ charged => .charged charged

theorem callFunction_told (told : CallsTold linked surroundings calls) (function : String)
    (frame : Frame) (earlier : List Moment) (store : Store) :
    Told linked earlier store (callMoments surroundings calls function frame store)
      (callFunction surroundings function frame store) := by
  -- A call that is not well formed traps, and any other is what it calls.
  unfold callMoments callFunction
  cases found : surroundings.callable? function with
  | none => exact told_trap _
  | some callable =>
    dsimp only
    cases takeOperands callable.params frame.stack with
    | none => exact told_trap _
    | some taken => exact told_map (told function callable found taken.1 earlier store) _

theorem iterate_told {body : List Value → Run Flow} {inside : List Value → Store → List Moment}
    (bodies : ∀ locals earlier store,
      Told linked earlier store (inside locals store) (body locals store))
    (outer : List Value) (patience : Nat) (locals : List Value) (earlier : List Moment)
    (store : Store) :
    Told linked earlier store (loopMoments body inside patience locals store)
      (iterate body outer patience locals store) := by
  -- Each iteration is charged and told, and leads to the next one or out of the loop.
  induction patience generalizing locals earlier store with
  | zero => exact told_still nofun
  | succ patience ih =>
    refine told_bind (charge_told earlier store) fun _ charged _ =>
      told_bind (bodies locals _ charged) fun flow left _ => ?_
    match flow with
    | .branch 0 frame => exact ih _ _ _
    | .branch (_ + 1) _ | .next _ | .leave _ => exact told_pure _

mutual

/-- An instruction is told of as its steps and the functions that it calls are. -/
theorem execute_told (same : surroundings.maxPages = linked.maxPages)
    (told : CallsTold linked surroundings calls) (instruction : Instruction) (frame : Frame)
    (earlier : List Moment) (store : Store) :
    Told linked earlier store (instructionMoments surroundings calls instruction frame store)
      (execute surroundings instruction frame store) := by
  -- A construct tells of the code inside it, and the other instructions of themselves.
  unfold instructionMoments
  split
  · rename_i body
    exact told_map (executeAll_told same told body _ _ _) _
  · rename_i body
    exact iterate_told (fun _ => executeAll_told same told body _) _ _ _ _ _
  · rename_i yes no condition rest locals
    unfold execute
    dsimp only
    split
    · exact told_map (executeAll_told same told no _ _ _) _
    · exact told_map (executeAll_told same told yes _ _ _) _
  · exact told_pure _
  · unfold execute
    split
    · exact told_pure _
    · exact told_pure _
  · exact told_pure _
  · exact told_map (callFunction_told told _ _ _ _) _
  · rename_i block loop branch br brIf ret call
    rw [execute]
    · exact told_map (told_run fun _ _ ran => .executed same ran) _
    all_goals assumption

/-- Instructions in order are told of one after another. -/
theorem executeAll_told (same : surroundings.maxPages = linked.maxPages)
    (told : CallsTold linked surroundings calls) (code : List Instruction) (frame : Frame)
    (earlier : List Moment) (store : Store) :
    Told linked earlier store (codeMoments surroundings calls code frame store)
      (executeAll surroundings code frame store) := by
  -- The first instruction is told of, and then the rest unless control went elsewhere.
  cases code with
  | nil => exact told_pure _
  | cons instruction rest =>
    unfold codeMoments executeAll
    refine told_bind (execute_told same told instruction frame earlier store) fun flow left _ => ?_
    match flow with
    | .next after => exact executeAll_told same told rest after _ _
    | .branch _ _ | .leave _ => exact told_pure _

end

theorem takeResults_still {types : List ValType} {stack : List Value} {store left : Store}
    {outcome : Except Failure (List Value)}
    (taken : takeResults types stack store = some (outcome, left)) : left = store := by
  unfold takeResults at taken
  split at taken
  all_goals cases taken
  all_goals rfl

/-- A function is told of as its charge and its code are. -/
theorem Function.run_told (same : surroundings.maxPages = linked.maxPages)
    (told : CallsTold linked surroundings calls) (function : Function) (arguments : List Value)
    (earlier : List Moment) (store : Store) :
    Told linked earlier store (function.moments surroundings calls arguments store)
      (function.run surroundings arguments store) := by
  -- What is made of the results at the end only looks at them.
  refine told_bind (charge_told earlier store) fun _ charged _ =>
    told_last (executeAll_told same told function.body _ _ _) fun flow left outcome last ended => ?_
  match flow, ended with
  | .next _, ended | .leave _, ended | .branch 0 _, ended => exact takeResults_still ended
  | .branch (_ + 1) _, ended =>
    cases ended
    rfl

end

end Wasm

end GuestBoundary
