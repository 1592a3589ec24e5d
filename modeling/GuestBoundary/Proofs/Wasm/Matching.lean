import GuestBoundary.Proofs.Wasm.Failures
import Mathlib.Data.Option.Basic

/-! Two runs of one code side by side: they go the same way as long as the functions that it calls do, and
if these fail in different ways, so does the code. -/

namespace GuestBoundary

section

variable {ε δ α β σ τ : Type}

/-- Two computations end alike: neither has an end, or both give values, or both fail, and what they
give and leave is related. -/
inductive Ends (faults : ε → δ → Prop) (values : α → β → Prop) (states : σ → τ → Prop) :
    Option (Except ε α × σ) → Option (Except δ β × τ) → Prop
  | endless : Ends faults values states none none
  | value {first : α} {second : β} {left : σ} {other : τ} : values first second →
      states left other → Ends faults values states (some (.ok first, left)) (some (.ok second, other))
  | failure {first : ε} {second : δ} {left : σ} {other : τ} : faults first second →
      states left other →
      Ends faults values states (some (.error first, left)) (some (.error second, other))

end

namespace Run

variable {α β : Type} {alike : Failure → Failure → Prop}

/-- From every store, two runs give the same value or fail alike, and leave the same store. -/
def Matches (alike : Failure → Failure → Prop) (first second : Run α) : Prop :=
  ∀ store, Ends alike Eq Eq (first store) (second store)

theorem matches_pure (value : α) : (pure value : Run α).Matches alike (pure value) :=
  fun _ => .value rfl rfl

theorem matches_throw {first second : Failure} (same : alike first second) :
    (throw first : Run α).Matches alike (throw second) := fun _ => .failure same rfl

theorem matches_endless : (endless : Run α).Matches alike endless := fun _ => .endless

/-- A run that fails only as it may matches itself. -/
theorem matches_self {run : Run α} (fails : run.FailsAs fun failure => alike failure failure) :
    run.Matches alike run := by
  intro store
  cases ran : run store with
  | none => exact .endless
  | some ended =>
    obtain ⟨failure | value, left⟩ := ended
    · exact .failure (fails store failure left ran) rfl
    · exact .value rfl rfl

/-- Runs in two parts match if their parts do. -/
theorem matches_bind {first second : Run α} {next later : α → Run β}
    (start : first.Matches alike second) (rest : ∀ value, (next value).Matches alike (later value)) :
    (first >>= next).Matches alike (second >>= later) := by
  -- The second parts start from one store with one value, if they start at all.
  intro store
  have parts := start store
  rw [bind_apply, bind_apply]
  revert parts
  generalize first store = one
  generalize second store = two
  rintro (_ | ⟨⟨⟩, ⟨⟩⟩ | ⟨same, ⟨⟩⟩)
  · exact .endless
  · exact rest _ _
  · exact .failure same rfl

/-- A run fails only as allowed exactly if it matches itself with such failures. -/
theorem failsAs_iff_matches {allowed : Failure → Prop} {run : Run α} :
    run.FailsAs allowed ↔ run.Matches (fun failure _ => allowed failure) run := by
  refine ⟨@matches_self α (fun failure _ => allowed failure) run,
    fun same store failure left failed => ?_⟩
  have ends := same store
  rw [failed] at ends
  cases ends with
  | failure holds _ => exact holds

/-- Runs that fail only in the same way are the same. -/
theorem matches_eq_iff {first second : Run α} : first.Matches Eq second ↔ first = second := by
  constructor
  · intro same
    funext store
    have ends := same store
    revert ends
    generalize first store = one
    generalize second store = two
    rintro (_ | ⟨⟨⟩, ⟨⟩⟩ | ⟨⟨⟩, ⟨⟩⟩) <;> rfl
  · rintro rfl
    exact matches_self fun _ _ _ _ => rfl

theorem matches_map {first second : Run α} (start : first.Matches alike second) (f : α → β) :
    (do return f (← first) : Run β).Matches alike (do return f (← second)) :=
  matches_bind start fun _ => matches_pure _

end Run

namespace Wasm

/-- Two surroundings that go on alike, and in which every call does the same. -/
structure Surroundings.Match (alike : Failure → Failure → Prop) (first second : Surroundings) :
    Prop where
  call : ∀ function frame,
    (callFunction first function frame).Matches alike (callFunction second function frame)
  maxPages : first.maxPages = second.maxPages
  patience : first.patience = second.patience

section

variable {alike : Failure → Failure → Prop} {first second : Surroundings}

/-- The failures that guest code comes to by itself are alike to themselves. -/
abbrev OwnAlike (alike : Failure → Failure → Prop) : Prop :=
  AllowsOwn fun failure => alike failure failure

theorem trap_matches {α : Type} (own : OwnAlike alike) (cause : Trap) :
    (Run.trap cause : Run α).Matches alike (Run.trap cause) := Run.matches_throw (own.trap cause)

/-- A call does the same if what is called takes the same operands and does the same with them. -/
theorem callFunction_matches (own : OwnAlike alike) {function : String}
    (found : Option.Rel
      (fun one other => one.params = other.params ∧
        ∀ operands, (one.run operands).Matches alike (other.run operands))
      (first.callable? function) (second.callable? function)) (frame : Frame) :
    (callFunction first function frame).Matches alike (callFunction second function frame) := by
  -- A call that is not well formed traps in both, and any other runs what is called.
  unfold callFunction
  revert found
  generalize first.callable? function = one
  generalize second.callable? function = two
  rintro (⟨params, runs⟩ | _)
  · dsimp only
    rw [← params]
    split
    · exact trap_matches own _
    · exact Run.matches_map (runs _) _
  · exact trap_matches own _

theorem iterate_matches (own : OwnAlike alike) {body other : List Value → Run Flow}
    (bodies : ∀ locals, (body locals).Matches alike (other locals)) (outer : List Value)
    (patience : Nat) (locals : List Value) :
    (iterate body outer patience locals).Matches alike (iterate other outer patience locals) := by
  -- Iteration by iteration, both go on or both leave.
  induction patience generalizing locals with
  | zero => exact Run.matches_endless
  | succ patience ih =>
    refine Run.matches_bind (Run.matches_self (charge_failsAs own)) fun _ =>
      Run.matches_bind (bodies locals) fun flow => ?_
    match flow with
    | .branch 0 frame => exact ih _
    | .branch (_ + 1) _ | .next _ | .leave _ => exact Run.matches_pure _

theorem simple_congr (same : first.maxPages = second.maxPages) (instruction : Instruction)
    (frame : Frame) : simple first instruction frame = simple second instruction frame := by
  -- All that an instruction without calls looks at is how far memory may grow.
  simp only [simple, same]

/-- An instruction that only passes operands on does the same wherever memory may grow as far. -/
theorem simple_matches (own : OwnAlike alike) (same : first.maxPages = second.maxPages)
    (instruction : Instruction) (frame : Frame) :
    (simple first instruction frame).Matches alike (simple second instruction frame) := by
  rw [simple_congr same]
  exact Run.matches_self (failsAs_of_trapsInPlace own (trapsInPlace_simple second _ _))

/-- Segments are placed without a call, and so in the same way. -/
theorem segments_matches (own : OwnAlike alike) (segments : List Segment) :
    (segments.forM fun segment => storeBytes segment.offset segment.bytes).Matches alike
      (segments.forM fun segment => storeBytes segment.offset segment.bytes) := by
  induction segments with
  | nil => exact Run.matches_pure _
  | cons segment rest ih =>
    exact Run.matches_bind
      (Run.matches_self (failsAs_of_trapsInPlace own (trapsInPlace_storeBytes _ _))) fun _ => ih

mutual

/-- An instruction does the same in surroundings that match. -/
theorem execute_matches (own : OwnAlike alike) (calls : first.Match alike second)
    (instruction : Instruction) (frame : Frame) :
    (execute first instruction frame).Matches alike (execute second instruction frame) := by
  -- A construct does what the code inside it does, and a call what is called.
  unfold execute
  split
  · rename_i body
    exact Run.matches_map (executeAll_matches own calls body _) _
  · rename_i body
    rw [← calls.patience]
    exact iterate_matches own (fun _ => executeAll_matches own calls body _) _ _ _
  · rename_i yes no condition rest locals
    dsimp only
    split
    · exact Run.matches_map (executeAll_matches own calls no _) _
    · exact Run.matches_map (executeAll_matches own calls yes _) _
  · exact Run.matches_pure _
  · split
    · exact Run.matches_pure _
    · exact Run.matches_pure _
  · exact Run.matches_pure _
  · exact Run.matches_map (calls.call _ _) _
  · exact Run.matches_map (simple_matches own calls.maxPages _ _) _

/-- Instructions in order do the same in surroundings that match. -/
theorem executeAll_matches (own : OwnAlike alike) (calls : first.Match alike second)
    (code : List Instruction) (frame : Frame) :
    (executeAll first code frame).Matches alike (executeAll second code frame) := by
  cases code with
  | nil => exact Run.matches_pure _
  | cons instruction rest =>
    unfold executeAll
    refine Run.matches_bind (execute_matches own calls instruction frame) fun flow => ?_
    match flow with
    | .next after => exact executeAll_matches own calls rest after
    | .branch _ _ | .leave _ => exact Run.matches_pure _

end

/-- A function of a guest does the same in surroundings that match. -/
theorem Function.run_matches (own : OwnAlike alike) (calls : first.Match alike second)
    (function : Function) (arguments : List Value) :
    (function.run first arguments).Matches alike (function.run second arguments) := by
  -- The results are taken from one stack, and taking them can only trap.
  have results (types : List ValType) (stack : List Value) :
      (takeResults types stack).Matches alike (takeResults types stack) :=
    Run.matches_self (takeResults_failsAs own types stack)
  refine Run.matches_bind (Run.matches_self (charge_failsAs own)) fun _ =>
    Run.matches_bind (executeAll_matches own calls _ _) fun flow => ?_
  match flow with
  | .next _ | .leave _ | .branch 0 _ => exact results _ _
  | .branch (_ + 1) _ => exact trap_matches own _

end

/-- A function of a guest fails by itself, or as the functions that it calls do. -/
theorem Function.run_failsAs {allowed : Failure → Prop} (own : AllowsOwn allowed)
    {surroundings : Surroundings} (calls : surroundings.CallsFailAs allowed) (function : Function)
    (arguments : List Value) : (function.run surroundings arguments).FailsAs allowed := by
  -- What is called matches itself, since it fails only as allowed, and so does what calls it.
  have alike : OwnAlike fun failure _ => allowed failure := own
  have same : surroundings.Match (fun failure _ => allowed failure) surroundings := by
    refine ⟨fun function frame => callFunction_matches alike ?_ frame, rfl, rfl⟩
    cases found : surroundings.callable? function with
    | none => exact .none
    | some callable =>
      exact .some ⟨rfl, fun operands => Run.failsAs_iff_matches.mp (calls function _ found operands)⟩
  exact Run.failsAs_iff_matches.mpr (function.run_matches alike same arguments)

end Wasm

end GuestBoundary
