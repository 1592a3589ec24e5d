import GuestBoundary.Proofs.Runs
import GuestBoundary.Wasm.Body

/-! What guest code itself can do to a store, and the relations that running it therefore keeps. -/

namespace GuestBoundary

namespace Wasm

/-- The changes that the code of a guest itself can make to a store, one at a time. -/
inductive GuestStep (maxPages : Nat) : Store → Store → Prop
  /-- One unit of fuel is used, at a function or at the iteration of a loop. -/
  | charge {store : Store} {fuel : Nat} : store.fuel = some (fuel + 1) →
      GuestStep maxPages store { store with fuel := some fuel }
  /-- Bytes are written inside memory. -/
  | write {store : Store} {address : UInt32} {bytes : List UInt8} {memory : Region} :
      store.memory.write address bytes = .ok memory →
      GuestStep maxPages store { store with memory }
  /-- Memory grows within its limit. -/
  | grow {store : Store} {size : Nat} : store.memory.size ≤ size → size ≤ maxPages * pageSize →
      GuestStep maxPages store { store with memory := store.memory.grow size }
  /-- The globals change. -/
  | assign {store : Store} (globals : List (String × Value)) :
      GuestStep maxPages store { store with globals }

section

variable {relation : Store → Store → Prop} {maxPages : Nat}

theorem charge_keeps (composes : Run.Composes relation)
    (step : ∀ {store left}, GuestStep maxPages store left → relation store left) :
    Run.charge.Keeps relation := by
  -- Without a meter, and with an empty one, the store stays as it is.
  intro store outcome left ran
  rw [Run.charge_apply] at ran
  split at ran
  · cases ran; exact composes.refl store
  · cases ran; exact composes.refl store
  · rename_i fuel metered
    cases ran
    exact step (.charge metered)

/-- Storing bytes keeps what every step without a charge keeps. -/
theorem storeBytes_keeps_uncharged (composes : Run.Composes relation)
    (step : ∀ {store left}, GuestStep maxPages store left → left.fuel = store.fuel →
      relation store left)
    (address : UInt32) (bytes : List UInt8) : (storeBytes address bytes).Keeps relation := by
  -- Either the bytes are written in bounds, or the write traps and changes nothing.
  intro store outcome left ran
  simp only [storeBytes, Run.bind_apply, Run.get_apply] at ran
  cases written : store.memory.write address bytes with
  | ok memory =>
    simp only [written, Run.access_ok, Run.pure_apply, Run.modify_apply, Option.some.injEq,
      Prod.mk.injEq] at ran
    exact ran.2 ▸ step (.write written) rfl
  | error fault =>
    simp only [written, Run.access_error, Run.trap_apply, Option.some.injEq, Prod.mk.injEq] at ran
    exact ran.2 ▸ composes.refl store

theorem storeBytes_keeps (composes : Run.Composes relation)
    (step : ∀ {store left}, GuestStep maxPages store left → relation store left)
    (address : UInt32) (bytes : List UInt8) : (storeBytes address bytes).Keeps relation :=
  storeBytes_keeps_uncharged composes (fun changed _ => step changed) address bytes

/-- Growing memory keeps what every step without a charge keeps. -/
theorem growMemory_keeps_uncharged (composes : Run.Composes relation)
    (step : ∀ {store left}, GuestStep maxPages store left → left.fuel = store.fuel →
      relation store left)
    (pages : UInt32) : (growMemory maxPages pages).Keeps relation := by
  -- A growth inside the limit is a step, and a refused one changes nothing.
  intro store outcome left ran
  simp only [growMemory, Run.bind_apply, Run.get_apply] at ran
  split at ran
  · rename_i within
    cases ran
    exact step (.grow (Nat.le_add_right _ _) within) rfl
  · cases ran
    exact composes.refl store

/-- An instruction that only passes operands on keeps what every step without a charge keeps. -/
theorem simple_keeps_uncharged (composes : Run.Composes relation) (surroundings : Surroundings)
    (step : ∀ {store left}, GuestStep surroundings.maxPages store left → left.fuel = store.fuel →
      relation store left)
    (instruction : Instruction) (frame : Frame) :
    (simple surroundings instruction frame).Keeps relation := by
  -- Most instructions only rearrange operands or trap; the others are taken in their order.
  have value {α : Type} (result : α) : (pure result : Run α).Keeps relation :=
    Run.keeps_pure composes result
  have trap {α : Type} (cause : Trap) : (Run.trap cause : Run α).Keeps relation :=
    Run.keeps_trap composes cause
  have look {α : Type} {next : Store → Run α} (rest : ∀ store, (next store).Keeps relation) :
      (get >>= next).Keeps relation := Run.keeps_bind composes (Run.keeps_get composes) rest
  unfold simple
  dsimp only
  split
  all_goals try exact trap _
  all_goals try exact value _
  · -- A local, if there is one under the index.
    split
    · exact value _
    · exact trap _
  · -- A global, if there is one under the name.
    refine look fun store => ?_
    split
    · exact value _
    · exact trap _
  · -- An assignment to a global.
    refine Run.keeps_bind composes ?_ fun _ => value _
    rintro store outcome left ⟨⟩
    exact step (.assign _) rfl
  · -- An operation on words, which may trap.
    split
    · exact value _
    · exact trap _
  · -- Loads read memory and leave it as it is.
    exact look fun store => Run.keeps_bind composes (Run.keeps_access composes _) fun _ => value _
  · exact look fun store => Run.keeps_bind composes (Run.keeps_access composes _) fun _ => value _
  · -- A word is stored.
    exact Run.keeps_bind composes (storeBytes_keeps_uncharged composes step _ _) fun _ => value _
  · exact look fun store => value _
  · -- Memory grows, or the growth is refused.
    exact Run.keeps_bind composes (growMemory_keeps_uncharged composes step _) fun _ => value _
  · -- A copy reads all bytes before it stores them.
    exact look fun store => Run.keeps_bind composes (Run.keeps_access composes _) fun _ =>
      Run.keeps_bind composes (storeBytes_keeps_uncharged composes step _ _) fun _ => value _
  · exact look fun store => Run.keeps_bind composes (Run.keeps_access composes _) fun _ =>
      Run.keeps_bind composes (storeBytes_keeps_uncharged composes step _ _) fun _ => value _

/-- An instruction that only passes operands on keeps what every step of a guest keeps. -/
theorem simple_keeps (composes : Run.Composes relation) (surroundings : Surroundings)
    (step : ∀ {store left}, GuestStep surroundings.maxPages store left → relation store left)
    (instruction : Instruction) (frame : Frame) :
    (simple surroundings instruction frame).Keeps relation :=
  simple_keeps_uncharged composes surroundings (fun changed _ => step changed) instruction frame

/-- Everything that a body can call keeps a relation. -/
def Surroundings.CallsKeep (surroundings : Surroundings) (relation : Store → Store → Prop) : Prop :=
  ∀ function callable, surroundings.callable? function = some callable →
    ∀ operands, (callable.run operands).Keeps relation

/-- Placing segments keeps what every step of a guest keeps. -/
theorem segments_keeps (composes : Run.Composes relation)
    (step : ∀ {store left}, GuestStep maxPages store left → relation store left)
    (segments : List Segment) :
    (segments.forM fun segment => storeBytes segment.offset segment.bytes).Keeps relation := by
  -- The segments are written one after another.
  induction segments with
  | nil => exact Run.keeps_pure composes _
  | cons segment rest ih =>
    exact Run.keeps_bind composes (storeBytes_keeps composes step _ _) fun _ => ih

/-- What is made of the results of a function only looks at them. -/
theorem takeResults_keeps (composes : Run.Composes relation) (types : List ValType)
    (stack : List Value) : (takeResults types stack).Keeps relation := by
  unfold takeResults
  dsimp only
  split
  · exact Run.keeps_pure composes _
  · exact Run.keeps_trap composes _

end

end Wasm

end GuestBoundary
