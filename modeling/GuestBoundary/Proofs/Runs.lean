import GuestBoundary.Wasm.Store

/-! Runs on a store: how they compose, and the relations between stores that all of them keep. -/

namespace GuestBoundary

namespace Run

variable {α β : Type}

/-- A run that goes on uses the value and the store of the run before it, unless that failed. -/
theorem bind_apply (run : Run α) (next : α → Run β) (store : Store) :
    (run >>= next) store =
      match run store with
      | none => none
      | some (.ok value, left) => next value left
      | some (.error failure, left) => some (.error failure, left) := by
  -- The two transformers under the name unfold to exactly this case distinction.
  change Option.bind (run store) _ = _
  rcases run store with _ | ⟨_ | _, _⟩ <;> rfl

@[simp] theorem pure_apply (value : α) (store : Store) :
    (pure value : Run α) store = some (.ok value, store) := rfl

@[simp] theorem throw_apply (failure : Failure) (store : Store) :
    (throw failure : Run α) store = some (.error failure, store) := rfl

@[simp] theorem trap_apply (cause : Trap) (store : Store) :
    (trap cause : Run α) store = some (.error (.trap cause), store) := rfl

@[simp] theorem get_apply (store : Store) : (get : Run Store) store = some (.ok store, store) := rfl

@[simp] theorem modify_apply (change : Store → Store) (store : Store) :
    (modify change : Run Unit) store = some (.ok (), change store) := rfl

@[simp] theorem access_ok (value : α) : access (.ok value) = (pure value : Run α) := rfl

@[simp] theorem access_error (fault : Fault) :
    access (.error fault) = (trap .memoryOutOfBounds : Run α) := rfl

/-- Charging takes one unit from a meter that has one, and fails on an empty meter. -/
theorem charge_apply (store : Store) :
    charge store =
      match store.fuel with
      | none => some (.ok (), store)
      | some 0 => some (.error .outOfFuel, store)
      | some (fuel + 1) => some (.ok (), { store with fuel := some fuel }) := by
  -- The meter is read first, and what it shows decides alone.
  rw [charge, bind_apply, get_apply]
  cases metered : store.fuel with
  | none => simp [metered]
  | some fuel => cases fuel <;> simp [metered]

/-- Once a run has failed, what would follow it does not run. -/
theorem bind_error {run : Run α} {next : α → Run β} {store left : Store} {failure : Failure}
    (failed : run store = some (.error failure, left)) :
    (run >>= next) store = some (.error failure, left) := by
  rw [bind_apply, failed]

/-- Once a run has given a value, what follows decides. -/
theorem bind_ok {run : Run α} {next : α → Run β} {store left : Store} {value : α}
    (done : run store = some (.ok value, left)) : (run >>= next) store = next value left := by
  rw [bind_apply, done]

/-- A run keeps a relation if it holds between every store and the one the run leaves there. -/
def Keeps (relation : Store → Store → Prop) (run : Run α) : Prop :=
  -- A run that fails leaves a store too, and a run without an end leaves none.
  ∀ store outcome left, run store = some (outcome, left) → relation store left

/-- The relations that a sequence of runs keeps as soon as each of them does. -/
structure Composes (relation : Store → Store → Prop) : Prop where
  refl : ∀ store, relation store store
  trans : ∀ {first second third}, relation first second → relation second third →
    relation first third

section

variable {relation : Store → Store → Prop}

theorem keeps_pure (composes : Composes relation) (value : α) :
    (pure value : Run α).Keeps relation := by
  -- Nothing runs, so the store left is the one that was given.
  rintro store outcome left ⟨⟩
  exact composes.refl store

theorem keeps_throw (composes : Composes relation) (failure : Failure) :
    (throw failure : Run α).Keeps relation := by
  -- A failure leaves the store at which it is raised.
  rintro store outcome left ⟨⟩
  exact composes.refl store

theorem keeps_trap (composes : Composes relation) (cause : Trap) :
    (trap cause : Run α).Keeps relation := keeps_throw composes _

theorem keeps_get (composes : Composes relation) : (get : Run Store).Keeps relation := by
  rintro store outcome left ⟨⟩
  exact composes.refl store

theorem keeps_endless : (endless : Run α).Keeps relation := by
  -- There is no end at which the relation would have to hold.
  rintro store outcome left ⟨⟩

theorem keeps_access (composes : Composes relation) (result : Except Fault α) :
    (access result).Keeps relation := by
  -- An access only passes on what was read, or traps.
  cases result with
  | ok value => exact keeps_pure composes value
  | error fault => exact keeps_trap composes _

/-- A sequence of runs keeps what its parts keep. -/
theorem keeps_bind (composes : Composes relation) {run : Run α} {next : α → Run β}
    (first : run.Keeps relation) (rest : ∀ value, (next value).Keeps relation) :
    (run >>= next).Keeps relation := by
  -- The second part only runs from the store that the first one left with a value.
  intro store outcome left ran
  rw [bind_apply] at ran
  cases part : run store with
  | none => simp [part] at ran
  | some ended =>
    obtain ⟨ending, middle⟩ := ended
    have before := first store ending middle part
    cases ending with
    | ok value =>
      rw [part] at ran
      exact composes.trans before (rest value middle outcome left ran)
    | error failure =>
      simp only [part, Option.some.injEq, Prod.mk.injEq] at ran
      exact ran.2 ▸ before

end

end Run

end GuestBoundary
