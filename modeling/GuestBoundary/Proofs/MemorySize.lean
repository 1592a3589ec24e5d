import GuestBoundary.Proofs.Instantiation
import GuestBoundary.Proofs.Life

/-! The size of memory over the life of an instance: it only grows, only by the instruction for that, and
never beyond the limit of the sandbox. -/

namespace GuestBoundary

/-- The relation between stores whose memories have the same size. -/
def SameSize (store left : Store) : Prop := left.memory.size = store.memory.size

theorem sameSize_composes : Run.Composes SameSize where
  refl _ := rfl
  trans first second := Eq.trans second first

/-- The relation between stores where memory does not shrink, and does not grow past some pages. -/
def SizeWithin (pages : Nat) (store left : Store) : Prop :=
  store.memory.size ≤ left.memory.size ∧
    left.memory.size ≤ max store.memory.size (pages * pageSize)

theorem sizeWithin_composes {pages : Nat} : Run.Composes (SizeWithin pages) where
  refl _ := ⟨Nat.le_refl _, Nat.le_max_left _ _⟩
  trans := by
    rintro first second third ⟨grown, within⟩ ⟨more, limited⟩
    exact ⟨by omega, by omega⟩

theorem SameSize.within {store left : Store} (same : SameSize store left) (pages : Nat) :
    SizeWithin pages store left := by
  rw [SizeWithin, same]
  exact ⟨Nat.le_refl _, Nat.le_max_left _ _⟩

namespace Wasm

/-- Growth by pages, unless it would pass the limit. -/
theorem growMemory_apply (maxPages : Nat) (pages : UInt32) (store : Store) :
    growMemory maxPages pages store =
      if store.memory.size + pages.toNat * pageSize ≤ maxPages * pageSize then
        some (.ok (UInt32.ofNat (store.memory.size / pageSize)),
          { store with
            memory := store.memory.grow (store.memory.size + pages.toNat * pageSize) })
      else some (.ok refusedGrowth, store) := by
  -- The size is read first, and it decides alone.
  simp only [growMemory, Run.bind_apply, Run.get_apply]
  split <;> rfl

/-- Growth beyond the limit is refused, which is an answer and changes nothing. -/
theorem execute_memoryGrow_refused {surroundings : Surroundings} {pages : UInt32}
    {stack locals : List Value} {store : Store}
    (beyond : surroundings.maxPages * pageSize < store.memory.size + pages.toNat * pageSize) :
    execute surroundings .memoryGrow ⟨.i32 pages :: stack, locals⟩ store =
      some (.ok (.next ⟨.i32 refusedGrowth :: stack, locals⟩), store) := by
  simp only [execute, simple, Run.bind_apply, growMemory_apply, if_neg (Nat.not_le_of_lt beyond)]
  rfl

/-- A step within a limit of no pages leaves the size of memory as it is. -/
theorem GuestStep.sameSize {store left : Store} (step : GuestStep 0 store left) :
    SameSize store left := by
  cases step with
  | write written =>
    obtain ⟨_, rfl⟩ := Region.write_ok written
    exact Region.size_store ..
  | grow larger within =>
    -- Nothing can grow, so there was nothing to begin with.
    simp only [Nat.zero_mul, Nat.le_zero] at within
    subst within
    exact (Nat.le_zero.mp larger).symm
  | charge | assign => rfl

/-- No step of a guest shrinks memory or grows it past the limit. -/
theorem GuestStep.sizeWithin {pages : Nat} {store left : Store}
    (step : GuestStep pages store left) : SizeWithin pages store left := by
  -- Growth is checked against the limit, and nothing else changes the size.
  cases step with
  | write written =>
    obtain ⟨_, rfl⟩ := Region.write_ok written
    refine SameSize.within ?_ pages
    exact Region.size_store ..
  | grow larger within => exact ⟨larger, Nat.le_trans within (Nat.le_max_right _ _)⟩
  | charge | assign => exact SameSize.within rfl pages

/-- Only growth asks how far memory may grow. -/
theorem simple_maxPages (surroundings : Surroundings) (maxPages : Nat) {instruction : Instruction}
    (other : instruction ≠ .memoryGrow) (frame : Frame) :
    simple { surroundings with maxPages } instruction frame =
      simple surroundings instruction frame := by
  -- The limit appears in one of the branches, and only there.
  unfold simple
  dsimp only
  split
  case h_19 => exact absurd rfl other
  case h_22 => simp only [*]
  all_goals rfl

/-- Every instruction but growth leaves the size of memory as it is. -/
theorem simple_sameSize {surroundings : Surroundings} {instruction : Instruction} {frame : Frame}
    {store left : Store} {outcome : Except Failure Frame} (other : instruction ≠ .memoryGrow)
    (ran : simple surroundings instruction frame store = some (outcome, left)) :
    SameSize store left := by
  -- It does what it would do where nothing may grow.
  rw [← simple_maxPages surroundings 0 other] at ran
  exact simple_keeps sameSize_composes { surroundings with maxPages := 0 } (·.sameSize) instruction
    frame store outcome left ran

end Wasm

namespace Context

variable {context : Context} {request : Request} {store left : Store} {reply : request.Reply}

/-- A request that enters no function is answered without a call. -/
theorem answer_uncalled (turned : context.entered? request = none) (store : Store) :
    ({ context with call := fun _ _ => Run.endless } : Context).answer request store =
      context.answer request store := by
  -- Only an invocation could call, and this one is turned down by its checks.
  cases request with
  | invoke name arguments =>
    have same : ({ context with call := fun _ _ => Run.endless } : Context).prepare name arguments =
        context.prepare name arguments := rfl
    simp only [entered?] at turned
    simp only [answer, invoke, same]
    split at turned
    · cases turned
    · rename_i refused
      simp only [refused]
  | _ => rfl

/-- A request that enters no function keeps what notes and the steps of a host keep. -/
theorem answer_keeps_uncalled {relation : Store → Store → Prop} (composes : Run.Composes relation)
    (step : ∀ {store left}, HostStep store left → relation store left)
    (notes : ∀ store event, relation store (store.note event))
    (turned : context.entered? request = none)
    (answered : context.answer request store = some (reply, left)) : relation store left := by
  -- Calls have no part in the answer, so they may be taken to be endless.
  by_cases noted : ∃ event, request = .note event
  · obtain ⟨event, rfl⟩ := noted
    cases answered
    exact notes store event
  · rw [← answer_uncalled turned] at answered
    exact answer_keeps composes (fun _ _ => Run.keeps_endless) step
      (fun event same => noted ⟨event, same⟩) answered

/-- A request that enters no function leaves the size of memory as it is, also where it writes. -/
theorem answer_sameSize (turned : context.entered? request = none)
    (answered : context.answer request store = some (reply, left)) : SameSize store left :=
  answer_keeps_uncalled sameSize_composes (·.memorySize) (fun _ _ => rfl) turned answered

end Context

/-- Growth is the only thing that can change the size of memory. -/
theorem Occurs.sameSize {linked : Linked} {earlier : List Moment} {moment : Moment}
    (occurs : Occurs linked earlier moment)
    (other : ∀ frame, moment.event ≠ .executed .memoryGrow frame) :
    SameSize moment.before moment.after := by
  -- By what each moment does to the store; marks and entries do nothing to it.
  cases occurs with
  | charged charged =>
    exact Wasm.charge_keeps sameSize_composes (·.sameSize) _ _ _ charged
  | @executed _ instruction frame _ _ _ _ ran =>
    refine Wasm.simple_sameSize (fun grows => other frame ?_) ran
    rw [grows]
  | placed placed =>
    exact Wasm.storeBytes_keeps sameSize_composes (·.sameSize) _ _ _ _ _ placed
  | asked _ turned answered => exact Context.answer_sameSize turned answered
  | _ => rfl

/-- Whatever happens, memory does not shrink and does not pass the limit that it was below. -/
theorem Occurs.sizeWithin {linked : Linked} {earlier : List Moment} {moment : Moment}
    (occurs : Occurs linked earlier moment) :
    SizeWithin linked.maxPages moment.before moment.after := by
  by_cases grows : ∃ frame, moment.event = .executed .memoryGrow frame
  · obtain ⟨frame, grows⟩ := grows
    cases occurs with
    | @executed surroundings _ _ store left _ limited ran =>
      cases grows
      -- What the step keeps is exactly what is asked for.
      refine Wasm.simple_keeps sizeWithin_composes surroundings (fun step => ?_) _ _ _ _ _ ran
      exact limited ▸ step.sizeWithin
    | _ => cases grows
  · exact (occurs.sameSize fun frame grown => grows ⟨frame, grown⟩).within _

/-- The limit in bytes fits the words that hosts count bytes in, whatever the limit in pages is. -/
theorem Settings.maxMemoryBytes_eq (settings : Settings) :
    (settings.maxMemoryPages.toUInt64 * 65536).toNat = settings.maxMemoryBytes := by
  have pages := settings.maxMemoryPages.toNat_lt
  rw [UInt64.toNat_mul, UInt32.toNat_toUInt64, maxMemoryBytes, pageSize]
  exact Nat.mod_eq_of_lt (by simp; omega)

/--
The size of memory only grows, only by growth, and never beyond the limit.

The instance of a guest has one memory that started within the limit of the sandbox, and its store is
one that the instance goes through as it performs the programs of its history. Of all stores that an
instance goes through, also inside host functions and after what has failed, none has a smaller memory
than one before it, and none a larger one than the limit, which no number of pages lets wrap around. The
stores follow each other by moments, of which only growth changes the size of memory. Growth past the
limit is refused and changes nothing.
-/
theorem Guest.memory_size_invariant (sandbox : Sandbox) :
    (∀ {history : List Performed} {guest : Guest} {inst : Instance},
      Performs sandbox.guest history guest → guest.phase = .instantiated inst →
      (∀ memory ∈ inst.linked.guest.memories,
        memory.min ≤ sandbox.settings.maxMemoryPages.toNat) ∧
      ∀ annotations : Annotations inst.linked,
        inst.store ∈ Instance.points sandbox.engine annotations sandbox.settings
          (Performed.tasks .unloaded history)) ∧
    (∀ {code : Wasm.Module} {linked : Linked},
      Linked.link sandbox.settings sandbox.registry code = .ok linked →
      ∀ (annotations : Annotations linked) (tasks : List HostTask),
        let life := Instance.life sandbox.engine annotations sandbox.settings tasks
        let points := Instance.points sandbox.engine annotations sandbox.settings tasks
        points.Pairwise (fun earlier later => earlier.memory.size ≤ later.memory.size) ∧
        (∀ point ∈ points, point.memory.size ≤ sandbox.settings.maxMemoryBytes) ∧
        life.map (·.before) = points.dropLast ∧
        (∀ moment ∈ life, moment.after.memory.size ≠ moment.before.memory.size →
          ∃ frame, moment.event = .executed .memoryGrow frame) ∧
        ∀ depth pages stack locals store,
          sandbox.settings.maxMemoryBytes < store.memory.size + pages.toNat * pageSize →
          Wasm.execute (linked.surroundings sandbox.engine.patience depth) .memoryGrow
              ⟨.i32 pages :: stack, locals⟩ store =
            some (.ok (.next ⟨.i32 Wasm.refusedGrowth :: stack, locals⟩), store)) ∧
    (sandbox.settings.maxMemoryPages.toUInt64 * 65536).toNat =
      sandbox.settings.maxMemoryBytes := by
  refine ⟨fun {history guest inst} performs holds => ?_, fun {code linked} links annotations tasks => ?_,
    Settings.maxMemoryBytes_eq _⟩
  · -- What the instance runs on was linked, and what it has become is the end of a life.
    obtain rfl := performs.eq_of_phase holds
    obtain ⟨_, links⟩ : Guest.Sound ⟨sandbox, .instantiated inst⟩ := performs.sound
    obtain ⟨_, _, sized, _⟩ := Linked.link_ok_iff.mp links
    obtain ⟨started, begun, stored⟩ := performs.lived.stored rfl
    obtain ⟨memory, memories, _, within, _⟩ := Linked.memoryPages_ok sized
    refine ⟨by simpa [memories] using within, fun annotations => ?_⟩
    obtain ⟨last, timeline, ends⟩ :=
      Instance.life_told sandbox.engine annotations sandbox.settings (Performed.tasks .unloaded history)
    rw [ends started inst.store begun stored]
    exact timeline.last_mem
  · obtain ⟨_, _, sized, _⟩ := Linked.link_ok_iff.mp links
    obtain ⟨memory, _, least, within, most⟩ := Linked.memoryPages_ok sized
    have start : linked.minPages * pageSize ≤ sandbox.settings.maxMemoryBytes :=
      Nat.mul_le_mul_right pageSize (Nat.le_trans (Nat.le_of_eq least) within)
    have limit : linked.maxPages * pageSize ≤ sandbox.settings.maxMemoryBytes :=
      Nat.mul_le_mul_right pageSize most
    obtain ⟨last, timeline, _⟩ :=
      Instance.life_told sandbox.engine annotations sandbox.settings tasks
    refine ⟨timeline.pairwise memoryGrows_composes fun occurs => occurs.sizeWithin.1,
      timeline.all (fun occurs within => ?_) start,
      timeline.befores, fun moment member changed => ?_, fun depth pages stack locals store beyond => ?_⟩
    · -- What was within the limit can only have grown up to it.
      exact Nat.le_trans occurs.sizeWithin.2 (Nat.max_le.mpr ⟨within, limit⟩)
    · obtain ⟨earlier, later, split⟩ := List.append_of_mem member
      rw [split] at timeline
      by_contra other
      exact changed (timeline.occurs.sameSize fun frame grown => other ⟨frame, grown⟩)
    · exact Wasm.execute_memoryGrow_refused (Nat.lt_of_le_of_lt limit beyond)

/-- With a limit of two pages, a guest that has failed a call and started with one page has no room for
two more, and so it has been at every point before. -/
theorem Guest.memory_size_invariant_sample :
    let sandbox : Sandbox :=
      ⟨Sample.engine, { Settings.default with maxMemoryPages := 2 }, Sample.registry Sample.nest⟩
    let history : List Performed :=
      [⟨.load (.described Sample.guest), .ok ()⟩, ⟨.instantiate, .ok ()⟩,
        ⟨.run (Program.invoke "relay" [.i32 1]), .error (.engine "stop")⟩]
    let tasks := Performed.tasks .unloaded history
    ∃ guest inst, Performs sandbox.guest history guest ∧
      guest.phase = .instantiated inst ∧
      (∀ annotations : Annotations inst.linked,
        let points := Instance.points sandbox.engine annotations sandbox.settings tasks
        inst.store ∈ points ∧
          ∀ point ∈ points, point.memory.size ≤ sandbox.settings.maxMemoryBytes) ∧
      Wasm.execute (inst.linked.surroundings 16 16) .memoryGrow ⟨[.i32 2], []⟩ inst.store =
        some (.ok (.next ⟨[.i32 0xFFFFFFFF], []⟩), inst.store) := by
  intro sandbox history tasks
  -- The history is evaluated operation by operation, and the life of its instance is bounded.
  have performs : Performs sandbox.guest history _ := .more rfl (.more rfl (.more rfl .none))
  obtain ⟨reached, bounded, _⟩ := memory_size_invariant sandbox
  obtain ⟨_, lived⟩ := reached performs rfl
  have links : Linked.link sandbox.settings sandbox.registry Sample.guest = .ok _ := rfl
  have bounded := bounded links
  refine ⟨_, _, performs, rfl, fun annotations => ⟨lived annotations, ?_⟩, ?_⟩
  · exact (bounded annotations tasks).2.1
  · exact (bounded (.plain _) tasks).2.2.2.2 16 2 [] [] _ (by decide)

end GuestBoundary
