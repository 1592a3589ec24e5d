import GuestBoundary.Proofs.Runs
import GuestBoundary.Wasm.Body

/-! Where running code comes to, and that a failure there ends all the code around it. -/

namespace GuestBoundary

namespace Wasm

variable {surroundings : Surroundings}

/-- Complete iterations of a loop, each charged and each branching back to the start, from locals and
a store to others. -/
inductive Rounds (body : List Value → Run Flow) :
    Nat → List Value → Store → List Value → Store → Prop
  | none {locals : List Value} {store : Store} : Rounds body 0 locals store locals store
  | more {rounds : Nat} {locals last : List Value} {store charged again left : Store}
      {frame : Frame} :
      Run.charge store = some (.ok (), charged) →
      body locals charged = some (.ok (.branch 0 frame), again) →
      Rounds body rounds frame.locals again last left →
      Rounds body (rounds + 1) locals store last left

/-- After its complete iterations, a loop goes on with the patience that is left. -/
theorem Rounds.iterate {body : List Value → Run Flow} {rounds : Nat} {locals last : List Value}
    {store left : Store} (done : Rounds body rounds locals store last left)
    (outer : List Value) (patience : Nat) :
    iterate body outer (patience + rounds) locals store = iterate body outer patience last left := by
  -- Every complete iteration uses up one unit of patience and starts the next one.
  induction done with
  | none => rfl
  | more charging turning _ ih =>
    rw [← ih]
    exact (Run.bind_ok charging).trans (Run.bind_ok turning)

/-- The code of a loop, as its iterations run it. -/
def loopBody (surroundings : Surroundings) (body : List Instruction) (locals : List Value) :
    Run Flow :=
  executeAll surroundings body ⟨[], locals⟩

/-- Code, started with a frame and a store, comes to an instruction with its own frame and store.
Everything before the instruction has run, and nothing of what follows it. -/
inductive Comes (surroundings : Surroundings) :
    List Instruction → Frame → Store → Instruction → Frame → Store → Prop
  | here {instruction : Instruction} {rest : List Instruction} {frame : Frame} {store : Store} :
      Comes surroundings (instruction :: rest) frame store instruction frame store
  | next {first instruction : Instruction} {rest : List Instruction} {frame after inner : Frame}
      {store middle left : Store} :
      execute surroundings first frame store = some (.ok (.next after), middle) →
      Comes surroundings rest after middle instruction inner left →
      Comes surroundings (first :: rest) frame store instruction inner left
  | block {body rest : List Instruction} {instruction : Instruction} {frame inner : Frame}
      {store left : Store} :
      Comes surroundings body ⟨[], frame.locals⟩ store instruction inner left →
      Comes surroundings (.block body :: rest) frame store instruction inner left
  | yes {yes no rest : List Instruction} {instruction : Instruction} {condition : UInt32}
      {stack locals : List Value} {inner : Frame} {store left : Store} : condition ≠ 0 →
      Comes surroundings yes ⟨[], locals⟩ store instruction inner left →
      Comes surroundings (.branch yes no :: rest) ⟨.i32 condition :: stack, locals⟩ store
        instruction inner left
  | no {yes no rest : List Instruction} {instruction : Instruction}
      {stack locals : List Value} {inner : Frame} {store left : Store} :
      Comes surroundings no ⟨[], locals⟩ store instruction inner left →
      Comes surroundings (.branch yes no :: rest) ⟨.i32 0 :: stack, locals⟩ store
        instruction inner left
  | loop {body rest : List Instruction} {instruction : Instruction} {rounds : Nat}
      {frame inner : Frame} {locals : List Value} {store middle charged left : Store} :
      Rounds (loopBody surroundings body) rounds frame.locals store locals middle →
      rounds < surroundings.patience →
      Run.charge middle = some (.ok (), charged) →
      Comes surroundings body ⟨[], locals⟩ charged instruction inner left →
      Comes surroundings (.loop body :: rest) frame store instruction inner left

/-- A loop that a meter stops has run its complete iterations and nothing after them. -/
theorem execute_loop_starved {body : List Instruction} {rounds : Nat} {frame : Frame}
    {locals : List Value} {store left : Store}
    (done : Rounds (loopBody surroundings body) rounds frame.locals store locals left)
    (patient : rounds < surroundings.patience) (empty : left.fuel = some 0) :
    execute surroundings (.loop body) frame store = some (.error .outOfFuel, left) := by
  -- Some patience is left, so it is the charge of the next iteration that fails.
  obtain ⟨patience, more⟩ : ∃ patience, surroundings.patience = patience + 1 + rounds :=
    ⟨surroundings.patience - rounds - 1, by omega⟩
  have starves : Run.charge left = some (.error .outOfFuel, left) := by
    rw [Run.charge_apply, empty]
  rw [execute, more]
  exact (done.iterate frame.stack (patience + 1)).trans (Run.bind_error starves)

/-- A call fails as the function that is called does. -/
theorem execute_call_error {callee : String} {callable : Callable} {operands rest : List Value}
    {frame : Frame} {store left : Store} {failure : Failure}
    (found : surroundings.callable? callee = some callable)
    (taken : takeOperands callable.params frame.stack = some (operands, rest))
    (failed : callable.run operands store = some (.error failure, left)) :
    execute surroundings (.call callee) frame store = some (.error failure, left) := by
  -- The call is found and its operands are taken, so the instruction is what it calls.
  rw [execute]
  refine Run.bind_error ?_
  simp only [callFunction, found, taken]
  exact Run.bind_error failed

/-- Code fails as soon as its first instruction does. -/
theorem executeAll_error {first : Instruction} {rest : List Instruction} {frame : Frame}
    {store left : Store} {failure : Failure}
    (failed : execute surroundings first frame store = some (.error failure, left)) :
    executeAll surroundings (first :: rest) frame store = some (.error failure, left) := by
  -- The rest is only looked at once the first instruction has ended with control.
  rw [executeAll]
  exact Run.bind_error failed

/-- Code fails as the instruction that it comes to does, and nothing runs after that. -/
theorem Comes.fails {code : List Instruction} {instruction : Instruction} {frame inner : Frame}
    {store reached left : Store} {failure : Failure}
    (comes : Comes surroundings code frame store instruction inner reached)
    (failed : execute surroundings instruction inner reached = some (.error failure, left)) :
    executeAll surroundings code frame store = some (.error failure, left) := by
  -- By induction on how the code came there: no construct around it catches a failure.
  induction comes with
  | here => exact executeAll_error failed
  | next done _ ih =>
    rw [executeAll]
    exact (Run.bind_ok done).trans (ih failed)
  | block _ ih =>
    -- The block ends inside its body, before it could hand control on.
    refine executeAll_error ?_
    rw [execute]
    exact Run.bind_error (ih failed)
  | yes holds _ ih =>
    refine executeAll_error ?_
    rw [execute]
    simp only [if_neg holds]
    exact Run.bind_error (ih failed)
  | no _ ih =>
    refine executeAll_error ?_
    rw [execute]
    simp only [if_true]
    exact Run.bind_error (ih failed)
  | @loop body rest _ rounds frame _ locals store middle charged _ done patient charging _ ih =>
    -- The iterations that are complete lead to the one that ends inside its body.
    obtain ⟨patience, more⟩ : ∃ patience, surroundings.patience = patience + 1 + rounds :=
      ⟨surroundings.patience - rounds - 1, by omega⟩
    refine executeAll_error ?_
    rw [execute, more]
    refine (done.iterate frame.stack (patience + 1)).trans ?_
    exact (Run.bind_ok charging).trans (Run.bind_error (ih failed))

/-- An instruction that runs no code of its own and calls none. -/
def Instruction.plain : Instruction → Bool
  | .block _ | .loop _ | .branch _ _ | .call _ => false
  | _ => true

/-- A run that can only fail by a trap, which leaves the store as it was. -/
def TrapsInPlace {α : Type} (run : Run α) : Prop :=
  -- This is not kept by sequences, since a second part could trap after a change by the first.
  ∀ store failure left, run store = some (.error failure, left) →
    left = store ∧ ∃ cause, failure = .trap cause

section

variable {α β : Type}

theorem trapsInPlace_pure (value : α) : TrapsInPlace (pure value : Run α) := by
  -- A value is no failure.
  rintro store failure left ⟨⟩

theorem trapsInPlace_trap (cause : Trap) : TrapsInPlace (Run.trap cause : Run α) := by
  rintro store failure left ⟨⟩
  exact ⟨rfl, cause, rfl⟩

theorem trapsInPlace_access (result : Except Fault α) : TrapsInPlace (Run.access result) := by
  -- What fails as an access of the host traps as one of the guest.
  cases result with
  | ok value => exact trapsInPlace_pure value
  | error fault => exact trapsInPlace_trap _

/-- Looking at the store first changes nothing. -/
theorem trapsInPlace_get {next : Store → Run α} (rest : ∀ store, TrapsInPlace (next store)) :
    TrapsInPlace (get >>= next) := by
  -- The rest runs from the very store that was looked at.
  intro store failure left failed
  rw [Run.bind_apply, Run.get_apply] at failed
  exact rest store store failure left failed

/-- What follows an access may trap too, since an access leaves the store as it is. -/
theorem trapsInPlace_access_bind (result : Except Fault α) {next : α → Run β}
    (rest : ∀ value, TrapsInPlace (next value)) : TrapsInPlace (Run.access result >>= next) := by
  -- Either the access passes its value on, or it traps before the rest runs.
  cases result with
  | ok value => exact rest value
  | error fault =>
    intro store failure left failed
    exact trapsInPlace_trap (α := β) _ store failure left failed

/-- What only passes a value on after a run adds no failure. -/
theorem trapsInPlace_map {run : Run α} (first : TrapsInPlace run) (f : α → β) :
    TrapsInPlace (do return f (← run)) := by
  -- A failure of the whole can only be the one of the run.
  intro store failure left failed
  rw [Run.bind_apply] at failed
  split at failed
  · cases failed
  · cases failed
  · rename_i cause stopped ran
    cases failed
    exact first store failure left ran

theorem trapsInPlace_modify (change : Store → Store) : TrapsInPlace (modify change : Run Unit) := by
  rintro store failure left ⟨⟩

theorem trapsInPlace_storeBytes (address : UInt32) (bytes : List UInt8) :
    TrapsInPlace (storeBytes address bytes) :=
  trapsInPlace_get fun _ => trapsInPlace_access_bind _ fun _ => trapsInPlace_modify _

theorem trapsInPlace_growMemory (maxPages : Nat) (pages : UInt32) :
    TrapsInPlace (growMemory maxPages pages) := by
  -- A growth that is refused is an answer, not a trap.
  refine trapsInPlace_get fun store => ?_
  dsimp only
  split
  · exact trapsInPlace_map (trapsInPlace_modify _) _
  · exact trapsInPlace_pure _

/-- An instruction that only passes operands on fails by a trap alone, before it changes anything. -/
theorem trapsInPlace_simple (surroundings : Surroundings) (instruction : Instruction)
    (frame : Frame) : TrapsInPlace (simple surroundings instruction frame) := by
  -- Whatever can trap comes before the one change that an instruction makes.
  unfold simple
  dsimp only
  split
  all_goals try exact trapsInPlace_trap _
  all_goals try exact trapsInPlace_pure _
  · -- A local, if there is one under the index.
    split
    · exact trapsInPlace_pure _
    · exact trapsInPlace_trap _
  · -- A global, if there is one under the name.
    refine trapsInPlace_get fun store => ?_
    split
    · exact trapsInPlace_pure _
    · exact trapsInPlace_trap _
  · -- An assignment to a global cannot trap.
    exact trapsInPlace_map (trapsInPlace_modify _) _
  · -- An operation on words, which may trap.
    split
    · exact trapsInPlace_pure _
    · exact trapsInPlace_trap _
  · -- Loads of a word and of a byte, and the store of a word.
    exact trapsInPlace_get fun store => trapsInPlace_map (trapsInPlace_access _) _
  · exact trapsInPlace_get fun store => trapsInPlace_map (trapsInPlace_access _) _
  · exact trapsInPlace_map (trapsInPlace_storeBytes _ _) _
  · exact trapsInPlace_get fun store => trapsInPlace_pure _
  · exact trapsInPlace_map (trapsInPlace_growMemory _ _) _
  · -- A copy and a fill check what they read before they store it.
    exact trapsInPlace_get fun store => trapsInPlace_access_bind _ fun _ =>
      trapsInPlace_map (trapsInPlace_storeBytes _ _) _
  · exact trapsInPlace_get fun store => trapsInPlace_access_bind _ fun _ =>
      trapsInPlace_map (trapsInPlace_storeBytes _ _) _

/-- A plain instruction fails by a trap alone, before it changes anything. -/
theorem trapsInPlace_execute {instruction : Instruction} (plain : instruction.plain = true)
    (frame : Frame) : TrapsInPlace (execute surroundings instruction frame) := by
  -- The constructs that run other code are not plain, and branches never fail.
  unfold execute
  split
  · cases plain
  · cases plain
  · cases plain
  · exact trapsInPlace_pure _
  · split
    · exact trapsInPlace_pure _
    · exact trapsInPlace_pure _
  · exact trapsInPlace_pure _
  · cases plain
  · exact trapsInPlace_map (trapsInPlace_simple surroundings _ _) _

end

end Wasm

end GuestBoundary
