import GuestBoundary.Program.Memory
import GuestBoundary.Proofs.World

/-! Many guests of one sandbox: what a host does with one of them neither changes what all of them share,
nor the others, nor does it depend on them. A change of what is shared would reach every other guest
(`World.Sound.guest?_put_of_ne`), so isolation rests on there being none (`Deed.apply_sandbox`). -/

namespace GuestBoundary

/-- How far a sandbox takes a new guest. -/
inductive Making where
  | unloaded
  | loaded (source : Wasm.Source)
  | instantiated (source : Wasm.Source)

/-- Make a guest; there is no outcome if its start function runs beyond the engine's patience. -/
def Sandbox.make (sandbox : Sandbox) : Making → Option (Except Fault Guest)
  | .unloaded => some (.ok sandbox.guest)
  | .loaded source => some (sandbox.load source)
  | .instantiated source => sandbox.instantiate source

/-- What a host does with one of its guests. -/
inductive Deed : Type 1 where
  /-- Make a guest anew, in place of the one that was there. -/
  | make (making : Making)
  | perform {α : Type} (operation : Operation α)

/-- What a deed comes to. -/
inductive Answer : Type 1 where
  | made (outcome : Except Fault Unit)
  | performed {α : Type} (outcome : Except Fault α)
  /-- There is no guest to perform an operation on. -/
  | absent

/-- Do something with the guest that there is, if any, and see what is left in its place. -/
def Deed.apply (sandbox : Sandbox) (slot : Option Guest) : Deed → Option (Answer × Option Guest)
  | .make making =>
    match sandbox.make making with
    | none => none
    | some (.ok guest) => some (.made (.ok ()), some guest)
    -- A guest that fails to be made is not there.
    | some (.error fault) => some (.made (.error fault), none)
  | .perform operation =>
    match slot with
    | none => some (.absent, none)
    | some guest =>
      match operation.apply guest with
      | none => none
      | some (outcome, after) => some (.performed outcome, some after)

/-- A loaded guest has what its sandbox has. -/
theorem Sandbox.load_sandbox {sandbox : Sandbox} {source : Wasm.Source} {guest : Guest}
    (loads : sandbox.load source = .ok guest) : guest.sandbox = sandbox := by
  -- Loading is an operation on the guest that the sandbox starts with.
  unfold Sandbox.load at loads
  split at loads
  · rename_i outcome left done
    cases loads
    have applied : (Operation.load source).apply sandbox.guest = some (.ok (), guest) :=
      congrArg some done
    exact (Operation.apply_stage applied).2
  · cases loads

/-- A new guest has what its sandbox has, however far it is taken. -/
theorem Sandbox.make_sandbox {sandbox : Sandbox} {making : Making} {guest : Guest}
    (made : sandbox.make making = some (.ok guest)) : guest.sandbox = sandbox := by
  cases making with
  | unloaded =>
    cases made
    rfl
  | loaded source => exact load_sandbox (Option.some.inj made)
  | instantiated source =>
    simp only [make, Sandbox.instantiate] at made
    split at made
    · cases made
    · rename_i loaded loads
      split at made
      · cases made
      · rename_i left done
        cases made
        have applied : Operation.instantiate.apply loaded = some (.ok (), guest) := done
        exact (Operation.apply_stage applied).2.trans (load_sandbox loads)
      · cases made

/-- Whatever is done, the guest that is left has the engine, the settings and the host functions as they
were. -/
theorem Deed.apply_sandbox {sandbox : Sandbox} {slot left : Option Guest} {deed : Deed} {answer : Answer}
    (own : ∀ guest, slot = some guest → guest.sandbox = sandbox)
    (applied : deed.apply sandbox slot = some (answer, left)) :
    ∀ guest, left = some guest → guest.sandbox = sandbox := by
  rintro after rfl
  -- A guest that is made is the sandbox's, and one that is operated on keeps what it had.
  cases deed with
  | make making =>
    simp only [Deed.apply] at applied
    split at applied
    · cases applied
    · rename_i made
      cases applied
      exact Sandbox.make_sandbox made
    · cases applied
  | perform operation =>
    cases slot with
    | none => cases applied
    | some guest =>
      simp only [Deed.apply] at applied
      split at applied
      · cases applied
      · rename_i performed
        cases applied
        exact (Operation.apply_stage performed).2.trans (own guest rfl)

/-- A deed on the guest that a host keeps under a key. -/
structure Action where
  key : Nat
  deed : Deed

/-- An action that was taken, with its answer and the guest that it left under its key. -/
structure Taken where
  action : Action
  answer : Answer
  after : Option Guest

namespace World

/-- Take an action: the guest under its key is put together from what it has a handle to, and all of that
is put back as the action leaves it. -/
def step (world : World) (action : Action) : Option (Taken × World) :=
  match action.deed.apply world.sandbox (world.guest? action.key) with
  | none => none
  | some (answer, after) =>
    let next := world.put action.key after
    some (⟨action, answer, next.guest? action.key⟩, next)

/-- Take actions one after another. -/
def run (world : World) : List Action → Option (List Taken × World)
  | [] => some ([], world)
  | action :: rest =>
    match world.step action with
    | none => none
    | some (taken, next) =>
      match next.run rest with
      | none => none
      | some (others, last) => some (taken :: others, last)

variable {world other next : World} {action : Action} {actions : List Action} {taken : Taken}
  {key : Nat}

/-- Two worlds of one sandbox that have the same guest under a key, wherever its store lies. -/
structure AgreeAt (key : Nat) (world other : World) : Prop where
  sandbox : world.sandbox = other.sandbox
  guest : world.guest? key = other.guest? key

/-- Worlds agree in both directions. -/
theorem AgreeAt.symm (agree : AgreeAt key world other) : AgreeAt key other world :=
  ⟨agree.sandbox.symm, agree.guest.symm⟩

/-- Worlds that agree with the same world agree. -/
theorem AgreeAt.trans (first : AgreeAt key world other) (second : AgreeAt key other next) :
    AgreeAt key world next :=
  ⟨first.sandbox.trans second.sandbox, first.guest.trans second.guest⟩

/-- A step puts back what is left of a guest of the sandbox. -/
theorem step_puts (sound : world.Sound) (stepped : world.step action = some (taken, next)) :
    ∃ answer after, action.deed.apply world.sandbox (world.guest? action.key) = some (answer, after) ∧
      (∀ guest, after = some guest → guest.sandbox = world.sandbox) ∧
      next = world.put action.key after ∧ taken = ⟨action, answer, next.guest? action.key⟩ := by
  unfold step at stepped
  split at stepped
  · cases stepped
  · rename_i answer after applied
    cases stepped
    have own := Deed.apply_sandbox (fun _ found => sound.sandbox_eq found) applied
    exact ⟨answer, after, applied, own, rfl, rfl⟩

/-- A step records the action that it takes. -/
theorem step_action (sound : world.Sound) (stepped : world.step action = some (taken, next)) :
    taken.action = action := by
  obtain ⟨_, _, _, _, _, rfl⟩ := step_puts sound stepped
  rfl

/-- A step leaves every store with one guest. -/
theorem step_sound (sound : world.Sound) (stepped : world.step action = some (taken, next)) :
    next.Sound := by
  obtain ⟨_, _, _, own, rfl, _⟩ := step_puts sound stepped
  exact sound.put own

/-- A step leaves what all guests share. -/
theorem step_sandbox (sound : world.Sound) (stepped : world.step action = some (taken, next)) :
    next.sandbox = world.sandbox := by
  obtain ⟨_, _, _, own, rfl, _⟩ := step_puts sound stepped
  exact put_sandbox own

/-- An action under one key leaves the guest under every other. -/
theorem step_elsewhere (sound : world.Sound) (stepped : world.step action = some (taken, next))
    (elsewhere : action.key ≠ key) : AgreeAt key next world := by
  have shared := step_sandbox sound stepped
  obtain ⟨_, _, _, _, rfl, _⟩ := step_puts sound stepped
  exact ⟨shared, sound.guest?_put_untouched elsewhere shared⟩

/-- What an action comes to depends on what all guests share and on the guest under its key alone, and so
does what it leaves there. -/
theorem step_agree (sound : world.Sound) (apart : other.Sound) (agree : AgreeAt action.key world other)
    (stepped : world.step action = some (taken, next)) :
    ∃ after, other.step action = some (taken, after) ∧ AgreeAt action.key next after := by
  have shared := step_sandbox sound stepped
  obtain ⟨answer, left, applied, own, rfl, rfl⟩ := step_puts sound stepped
  rw [agree.sandbox, agree.guest] at applied
  -- The guest is found again in both worlds, at whatever address each of them has put its store.
  have found : (other.put action.key left).guest? action.key = left := apart.guest?_put
  have same : (world.put action.key left).guest? action.key = left := sound.guest?_put
  refine ⟨other.put action.key left, ?_, ?_, same.trans found.symm⟩
  · simp only [step, applied, found, same]
  · rw [shared, put_sandbox fun guest put => (own guest put).trans agree.sandbox]
    exact agree.sandbox

/-- The first action is taken, and then the others. -/
theorem run_cons_eq_some_iff {ran : List Taken × World} :
    world.run (action :: actions) = some ran ↔
      ∃ taken next rest, world.step action = some (taken, next) ∧ next.run actions = some rest ∧
        ran = (taken :: rest.1, rest.2) := by
  rw [run]
  cases world.step action with
  | none => simp
  | some stepped =>
    obtain ⟨taken, next⟩ := stepped
    cases runs : next.run actions with
    | none => simp [runs]
    | some rest =>
      obtain ⟨others, last⟩ := rest
      simp [runs, eq_comm]

/-- A run takes exactly the actions that it is given, leaves what all guests share, and leaves every store
with one guest. -/
theorem run_keeps {ran : List Taken × World} (sound : world.Sound)
    (runs : world.run actions = some ran) :
    ran.1.map (·.action) = actions ∧ ran.2.sandbox = world.sandbox ∧ ran.2.Sound := by
  -- Each step hands the next one a world of the same sandbox whose stores have one owner each.
  induction actions generalizing world ran with
  | nil =>
    cases runs
    exact ⟨rfl, rfl, sound⟩
  | cons action others ih =>
    obtain ⟨taken, next, rest, stepped, after, rfl⟩ := run_cons_eq_some_iff.mp runs
    obtain ⟨same, shared, ends⟩ := ih (step_sound sound stepped) after
    refine ⟨?_, shared.trans (step_sandbox sound stepped), ends⟩
    rw [List.map_cons, step_action sound stepped, same]

/-- The actions under one key come to the same in two worlds that agree there, whatever the actions
under other keys do to one of them. -/
theorem run_agree {ran : List Taken × World} (sound : world.Sound) (apart : other.Sound)
    (agree : AgreeAt key world other) (runs : world.run actions = some ran) :
    ∃ last, other.run (actions.filter (·.key == key)) =
        some (ran.1.filter (·.action.key == key), last) ∧ AgreeAt key ran.2 last := by
  -- By induction on the actions: those of the key move both worlds, the others only one.
  induction actions generalizing world other ran with
  | nil =>
    cases runs
    exact ⟨other, rfl, agree⟩
  | cons action others ih =>
    obtain ⟨taken, next, rest, stepped, after, rfl⟩ := run_cons_eq_some_iff.mp runs
    have same := step_action sound stepped
    have kept := step_sound sound stepped
    by_cases own : action.key = key
    · subst own
      obtain ⟨middle, moved, agrees⟩ := step_agree sound apart agree stepped
      obtain ⟨last, alone, ends⟩ := ih kept (step_sound apart moved) agrees after
      refine ⟨last, ?_, ends⟩
      rw [List.filter_cons_of_pos (by simp), List.filter_cons_of_pos (by simp [same])]
      exact run_cons_eq_some_iff.mpr ⟨_, _, _, moved, alone, rfl⟩
    · have still := step_elsewhere sound stepped own
      obtain ⟨last, alone, ends⟩ := ih kept apart (still.trans agree) after
      refine ⟨last, ?_, ends⟩
      rw [List.filter_cons_of_neg (by simpa using own), List.filter_cons_of_neg (by simpa [same] using own)]
      exact alone

/-- If the actions under each key have an end by themselves, so do all of them together. -/
theorem run_isSome (sound : world.Sound)
    (alone : ∀ key, ∃ other : World, other.Sound ∧ AgreeAt key world other ∧
      (other.run (actions.filter (·.key == key))).isSome) : (world.run actions).isSome := by
  -- By induction on the actions, each of which is the next one of its key.
  induction actions generalizing world with
  | nil => rfl
  | cons action others ih =>
    obtain ⟨other, apart, agree, ends⟩ := alone action.key
    rw [List.filter_cons_of_pos (by simp)] at ends
    obtain ⟨ran, runs⟩ := Option.isSome_iff_exists.mp ends
    obtain ⟨taken, after, rest, moved, rests, rfl⟩ := run_cons_eq_some_iff.mp runs
    obtain ⟨next, stepped, agrees⟩ := step_agree apart sound agree.symm moved
    have left : (next.run others).isSome := ih (step_sound sound stepped) fun key => ?_
    · obtain ⟨last, runs⟩ := Option.isSome_iff_exists.mp left
      exact Option.isSome_iff_exists.mpr
        ⟨_, run_cons_eq_some_iff.mpr ⟨_, _, _, stepped, runs, rfl⟩⟩
    · by_cases own : action.key = key
      · subst own
        exact ⟨after, step_sound apart moved, agrees.symm, by rw [rests]; rfl⟩
      · -- The other keys have not moved.
        obtain ⟨lone, fine, equal, finishes⟩ := alone key
        have still := step_elsewhere sound stepped own
        rw [List.filter_cons_of_neg (by simpa using own)] at finishes
        exact ⟨lone, fine, still.trans equal, finishes⟩

/-- Making a guest does not depend on the guests that there are. -/
theorem make_fresh {making : Making} (sound : world.Sound) (apart : other.Sound)
    (same : world.sandbox = other.sandbox) :
    (world.step ⟨key, .make making⟩).map (·.1) = (other.step ⟨key, .make making⟩).map (·.1) := by
  -- What is made is found again, at whatever address.
  have found (slot : Option Guest) :
      (world.put key slot).guest? key = (other.put key slot).guest? key :=
    sound.guest?_put.trans apart.guest?_put.symm
  simp only [step, Deed.apply, same]
  cases other.sandbox.make making with
  | none => rfl
  | some outcome => cases outcome <;> simp [found]

/--
The guests of a sandbox are isolated from each other and start fresh.

However a host makes guests and operates on them, in whatever order and with whatever failures: under each
key, every action comes to the same, and leaves the same guest with all that it owns, as when only the
actions under that key are taken, in their order, on a new sandbox that is set up the same; and all
actions together have an end exactly if those under each key have one by themselves. A guest that is
made after any history is the one that a new sandbox makes, also where its store takes the place of
another that was given up. An operation may be a single request, so what happens between two steps of one
guest can be anything that happens to the others.

An operation works on the engine and the host functions themselves, which all guests share, on the
guest's own copy of the settings, and on its own store. It leaves all of these but the store as they are,
and no store ever belongs to two guests. A host function is a program for the values that it is given: it
keeps nothing from one call to the next.
-/
theorem isolated (sandbox : Sandbox) (actions : List Action) :
    (((new sandbox).run actions).isSome ↔
      ∀ key, ((new sandbox).run (actions.filter (·.key == key))).isSome) ∧
    ∀ taken world, (new sandbox).run actions = some (taken, world) →
      taken.map (·.action) = actions ∧
      (∀ key, ∃ alone, (new sandbox).run (actions.filter (·.key == key)) =
          some (taken.filter (·.action.key == key), alone) ∧
        alone.guest? key = world.guest? key) ∧
      (∀ key making, (world.step ⟨key, .make making⟩).map (·.1) =
        ((new sandbox).step ⟨key, .make making⟩).map (·.1)) ∧
      world.sandbox = sandbox ∧
      (∀ key guest, world.guest? key = some guest → guest.sandbox = sandbox) ∧
      ∀ key other address, world.address? key = some address → world.address? other = some address →
        key = other := by
  have fresh := sound_new sandbox
  have each {taken : List Taken} {world : World}
      (runs : (new sandbox).run actions = some (taken, world)) (key : Nat) :
      ∃ last, (new sandbox).run (actions.filter (·.key == key)) =
          some (taken.filter (·.action.key == key), last) ∧ AgreeAt key world last :=
    run_agree fresh fresh ⟨rfl, rfl⟩ runs
  refine ⟨⟨fun ends key => ?_, fun alone => ?_⟩, fun taken world runs => ?_⟩
  -- An end of all actions together gives one of those under each key, and the other way round.
  · obtain ⟨⟨taken, world⟩, runs⟩ := Option.isSome_iff_exists.mp ends
    obtain ⟨last, alone, _⟩ := each runs key
    exact Option.isSome_iff_exists.mpr ⟨_, alone⟩
  · exact run_isSome fresh fun key => ⟨_, fresh, ⟨rfl, rfl⟩, alone key⟩
  · obtain ⟨same, shared, sound⟩ := run_keeps fresh runs
    refine ⟨same, fun key => ?_, fun key making => make_fresh sound fresh shared, shared,
      fun key guest found => (sound.sandbox_eq found).trans shared,
      fun key other address one another => sound.own one another⟩
    obtain ⟨last, alone, agree⟩ := each runs key
    exact ⟨last, alone, agree.guest.symm⟩

end World

namespace Sample

/-- A host that keeps three guests: it writes to the first before it makes the second, which then fails a
call. It closes the first and makes the third, whose store takes the place of the one that was given up,
and which reads what the first has written to. -/
def rivals : List Action :=
  [⟨0, .make (.instantiated (.described guest))⟩,
    ⟨0, .perform (.run do (← View.resolve).write 0 [7])⟩,
    ⟨1, .make (.loaded (.described guest))⟩,
    ⟨1, .perform .instantiate⟩,
    ⟨1, .perform (.run (Program.invoke "relay" [.i32 0]))⟩,
    ⟨0, .perform .close⟩,
    ⟨2, .make (.instantiated (.described guest))⟩,
    ⟨2, .perform (.run do (← View.resolve).read 0 1)⟩]

end Sample

namespace World

/-- The third guest reads zero at the place where the first has written, as it does by itself. -/
theorem isolated_sample :
    ∃ taken world,
      (new (Sandbox.mk Sample.engine .default (Sample.registry Sample.descend))).run Sample.rivals =
        some (taken, world) ∧
      world.address? 0 = none ∧ world.address? 1 = some 1 ∧ world.address? 2 = some 0 ∧
      (taken.map (·.answer)).getLast? = some (.performed (.ok [(0 : UInt8)])) ∧
      ∃ alone,
        (new (Sandbox.mk Sample.engine .default (Sample.registry Sample.descend))).run
            (Sample.rivals.filter (·.key == 2)) =
          some (taken.filter (·.action.key == 2), alone) ∧
        alone.guest? 2 = world.guest? 2 := by
  have runs : ∃ taken world,
      (new (Sandbox.mk Sample.engine .default (Sample.registry Sample.descend))).run Sample.rivals =
        some (taken, world) ∧
      world.address? 0 = none ∧ world.address? 1 = some 1 ∧ world.address? 2 = some 0 ∧
      (taken.map (·.answer)).getLast? = some (.performed (.ok [(0 : UInt8)])) :=
    ⟨_, _, rfl, rfl, rfl, rfl, rfl⟩
  obtain ⟨taken, world, runs, first, second, third, last⟩ := runs
  exact ⟨taken, world, runs, first, second, third, last, ((isolated _ _).2 taken world runs).2.1 2⟩

end World

end GuestBoundary
