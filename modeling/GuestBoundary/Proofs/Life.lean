import GuestBoundary.Proofs.Lifecycle
import GuestBoundary.Proofs.Operations
import GuestBoundary.Proofs.Wasm.Moments

/-! The life of an instance: the moments from its first store on, through instantiation and everything
that its host has it do, at every depth of calls between guest and host. -/

namespace GuestBoundary

/-- Annotations of the host functions that a guest is linked against. -/
structure Annotations (linked : Linked) where
  text : HostFunction → List Value → Annotated (List Value)
  /-- Without its annotations, each is the body of its host function. -/
  program_text : ∀ {id host}, linked.hosts.lookup id = some host → ∀ arguments,
    (text host arguments).program = host.body arguments
  honest : ∀ {id host}, linked.hosts.lookup id = some host → ∀ arguments,
    (text host arguments).Honest

/-- Annotations that mark nothing, which all host functions have. -/
def Annotations.plain (linked : Linked) : Annotations linked where
  text host arguments := .plain .own (host.body arguments)
  program_text _ _ := Annotated.program_plain _ _
  honest _ _ := .plain _

/-- A host function leaves the store as its body does, whatever its results are worth. -/
theorem Context.perform_run {context : Context} {host : HostFunction} {arguments : List Value}
    {store left : Store} {outcome : Except Fault (List Value)}
    (performed : context.perform (host.run arguments) store = some (outcome, left)) :
    ∃ given, context.perform (host.body arguments) store = some (given, left) := by
  -- The results are only looked at.
  rw [HostFunction.run, perform_bind] at performed
  split at performed
  · cases performed
  · rename_i values middle ran
    split at performed
    all_goals cases performed
    all_goals exact ⟨_, ran⟩
  · rename_i fault middle ran
    cases performed
    exact ⟨_, ran⟩

namespace Linked

/-- The moments of a call, with those of all calls that it leads to. -/
def moments (linked : Linked) (annotations : Annotations linked) (patience : Nat) :
    (depth : Nat) → Caller → String → List Value → Store → List Moment
  | 0, _, _, _, _ => []
  | depth + 1, caller, id, arguments, store =>
    match linked.hosts.lookup id with
    | some host =>
      (annotations.text host arguments).moments
        (linked.context patience depth (caller == .guest) host.name)
        (linked.moments annotations patience depth .host) store
    | none =>
      match linked.guest.function? id with
      | some function =>
        function.moments (linked.surroundings patience depth)
          (linked.moments annotations patience depth .guest) arguments store
      | none => []

/-- The moments of a call tell of it, at every depth. -/
theorem call_told {linked : Linked} (annotations : Annotations linked) (patience depth : Nat)
    (caller : Caller) (id : String) (arguments : List Value) (earlier : List Moment)
    (store : Store) :
    Told linked earlier store
      (linked.moments annotations patience depth caller id arguments store)
      (linked.call patience depth caller id arguments store) := by
  -- Whatever a call runs can only make calls of a smaller depth.
  induction depth generalizing caller id arguments earlier store with
  | zero => exact told_trap _
  | succ depth ih =>
    unfold moments
    cases bound : linked.hosts.lookup id with
    | some host =>
      have calls : (linked.context patience depth (caller == .guest) host.name).CallsTold
          (linked.moments annotations patience depth .host) := ih .host
      refine ((annotations.honest bound arguments).toldAt calls earlier store).imp
        fun outcome left ended => ?_
      rw [call_host bound, Run.carry] at ended
      split at ended
      · cases ended
      · rename_i performed
        cases ended
        rw [annotations.program_text bound]
        exact Context.perform_run performed
    | none =>
      cases defined : linked.guest.function? id with
      | none =>
        rw [call_missing bound defined]
        exact told_trap _
      | some function =>
        rw [call_function bound defined]
        refine Wasm.Function.run_told rfl ?_ function arguments earlier store
        -- Guest code calls by the same names, with the instance as the caller.
        intro name callable found operands earlier store
        rw [callable?_run found]
        exact ih .guest name operands earlier store

end Linked

/-- An honest program that the host performs on an instance. -/
structure HostTask where
  {α : Type}
  annotated : Annotated α
  honest : annotated.Honest

namespace Instance

variable (engine : Engine) {linked : Linked} (annotations : Annotations linked)

/-- The moments of placing segments, up to the first that traps. -/
def placeMoments : List Wasm.Segment → Store → List Moment
  | [], _ => []
  | segment :: rest, store =>
    (Wasm.storeBytes segment.offset segment.bytes).moments (.placed segment) store ++
      following (Wasm.storeBytes segment.offset segment.bytes store) fun _ left =>
        placeMoments rest left

/-- The moments of instantiation. -/
def beginMoments (store : Store) : List Moment :=
  placeMoments linked.guest.segments store ++
    following
      ((linked.guest.segments.forM fun segment => Wasm.storeBytes segment.offset segment.bytes)
        store) fun _ placed =>
      match linked.guest.start with
      | none => []
      | some id => linked.moments annotations engine.patience engine.depth .guest id [] placed

/-- The moments of tasks that are performed one after another, however each ends. -/
def taskMoments : List HostTask → Store → List Moment
  | [], _ => []
  | task :: rest, store =>
    task.annotated.moments (context engine linked)
        (linked.moments annotations engine.patience engine.depth .host) store ++
      match (context engine linked).perform task.annotated.program store with
      | none => []
      | some (_, left) => taskMoments rest left

/-- The store that tasks leave, if all of them come to an end. -/
def performAll (linked : Linked) : List HostTask → Store → Option Store
  | [], store => some store
  | task :: rest, store =>
    match (context engine linked).perform task.annotated.program store with
    | none => none
    | some (_, left) => performAll linked rest left

/-- All moments of an instance that performs tasks. -/
def life (settings : Settings) (tasks : List HostTask) : List Moment :=
  beginMoments engine annotations (initialStore settings linked) ++
    following (begin engine linked (initialStore settings linked)) fun _ started =>
      taskMoments engine annotations tasks started

/-- The stores that an instance goes through: the first one, and the one after each moment. -/
def points (settings : Settings) (tasks : List HostTask) : List Store :=
  initialStore settings linked :: (life engine annotations settings tasks).map (·.after)

theorem place_told (segments : List Wasm.Segment) (earlier : List Moment) (store : Store) :
    Told linked earlier store (placeMoments segments store)
      ((segments.forM fun segment => Wasm.storeBytes segment.offset segment.bytes) store) := by
  -- The segments are placed one after another.
  induction segments generalizing earlier store with
  | nil => exact told_pure ()
  | cons segment rest ih =>
    exact told_bind (told_run fun _ _ placed => .placed placed) fun _ left _ => ih _ left

theorem begin_told (earlier : List Moment) (store : Store) :
    Told linked earlier store (beginMoments engine annotations store)
      (begin engine linked store) := by
  -- The segments come first, and the start function runs on what they left.
  unfold beginMoments begin
  refine told_bind (place_told _ _ _) fun _ placed _ => ?_
  cases linked.guest.start with
  | none => exact told_pure ()
  | some id => exact told_map (Linked.call_told annotations _ _ _ id [] _ placed) _

/-- The instance's own context calls what is told of. -/
theorem context_callsTold : (context engine linked).CallsTold
    (linked.moments annotations engine.patience engine.depth .host) :=
  Linked.call_told annotations engine.patience engine.depth .host

/-- Tasks are told of one after another. -/
theorem tasks_told (tasks : List HostTask) (earlier : List Moment) (store : Store) :
    ∃ last, Timeline linked earlier store (taskMoments engine annotations tasks store) last ∧
      ∀ left, performAll engine linked tasks store = some left → left = last := by
  induction tasks generalizing earlier store with
  | nil => exact ⟨store, .none, fun left ended => (Option.some.inj ended).symm⟩
  | cons task rest ih =>
    obtain ⟨middle, timeline, ends⟩ :=
      task.honest.toldAt (context_callsTold engine annotations) earlier store
    simp only [taskMoments, performAll]
    cases performed : (context engine linked).perform task.annotated.program store with
    | none => exact ⟨middle, by rw [List.append_nil]; exact timeline, nofun⟩
    | some ended =>
      -- The next task starts where this one ends, with a value or with a fault.
      obtain rfl := ends ended.1 ended.2 performed
      obtain ⟨last, later, ends⟩ := ih _ _
      exact ⟨last, timeline.append later, ends⟩

/-- The moments of a life follow each other from the first store to the one that its tasks leave. -/
theorem life_told (settings : Settings) (tasks : List HostTask) :
    ∃ last, Timeline linked [] (initialStore settings linked)
        (life engine annotations settings tasks) last ∧
      ∀ started left, begin engine linked (initialStore settings linked) = some (.ok (), started) →
        performAll engine linked tasks started = some left → left = last := by
  -- A life that does not get past instantiation has the moments of that alone.
  obtain ⟨middle, timeline, ends⟩ :=
    begin_told engine annotations [] (initialStore settings linked)
  unfold life
  cases begun : begin engine linked (initialStore settings linked) with
  | none =>
    refine ⟨middle, by simpa [following] using timeline, ?_⟩
    rintro started left ⟨⟩
  | some ended =>
    obtain ⟨failure | ⟨⟩, started⟩ := ended
    · refine ⟨middle, by simpa [following] using timeline, ?_⟩
      rintro started left ⟨⟩
    · -- The tasks start from the store that instantiation has left.
      obtain rfl := ends _ _ begun
      obtain ⟨last, later, ends⟩ := tasks_told engine annotations tasks _ started
      refine ⟨last, timeline.append later, ?_⟩
      rintro _ left ⟨⟩ performed
      exact ends left performed

/-- One more task starts from the store that the others have left. -/
theorem performAll_append {tasks : List HostTask} {store middle : Store}
    (performed : performAll engine linked tasks store = some middle) (task : HostTask) :
    performAll engine linked (tasks ++ [task]) store =
      ((context engine linked).perform task.annotated.program middle).map (·.2) := by
  -- By induction on the tasks before it, all of which come to an end.
  induction tasks generalizing store with
  | nil =>
    cases performed
    simp only [List.nil_append, performAll]
    cases (context engine linked).perform task.annotated.program middle <;> rfl
  | cons first rest ih =>
    simp only [List.cons_append, performAll] at performed ⊢
    cases ran : (context engine linked).perform first.annotated.program store with
    | none =>
      rw [ran] at performed
      cases performed
    | some ended =>
      rw [ran] at performed
      exact ih performed

end Instance

/-- The tasks that an operation gives to the instance of a guest at a stage: its program, if it runs one
and there is an instance to run it. -/
def Operation.tasks {α : Type} (stage : Stage) : Operation α → List HostTask
  | .run program => if stage = .instantiated then [⟨.plain .own program, .plain program⟩] else []
  | _ => []

/-- The tasks of operations that are performed from a stage on, in order. -/
def Performed.tasks : Stage → List Performed → List HostTask
  | _, [] => []
  | stage, performed :: rest =>
    performed.operation.tasks stage ++ Performed.tasks (performed.next stage) rest

/-- The instance of a guest has lived from its first store on: its store is the one that its tasks have left,
of which there are none before there is an instance. -/
structure Guest.Lived (tasks : List HostTask) (guest : Guest) : Prop where
  fresh : guest.stage ≠ .instantiated → guest.stage ≠ .closed → tasks = []
  stored {inst : Instance} : guest.phase = .instantiated inst →
    ∃ started,
      Instance.begin guest.sandbox.engine inst.linked
        (Instance.initialStore guest.sandbox.settings inst.linked) = some (.ok (), started) ∧
      Instance.performAll guest.sandbox.engine inst.linked tasks started = some inst.store

/-- Every operation leaves a guest that has lived, with one task more if it runs a program. -/
theorem Operation.apply_lived {α : Type} {operation : Operation α} {outcome : Except Fault α}
    {guest after : Guest} {tasks : List HostTask}
    (applied : operation.apply guest = some (outcome, after)) (lived : guest.Lived tasks) :
    after.Lived (tasks ++ operation.tasks guest.stage) := by
  have idle (same : operation.tasks guest.stage = []) :
      tasks ++ operation.tasks guest.stage = tasks := by rw [same, List.append_nil]
  -- An instance starts with instantiation, and each program that runs on it is one more task.
  cases apply_leads applied with
  | refused refused _ =>
    have none : operation.tasks guest.stage = [] := by
      cases operation with
      | run program =>
        -- A program is only refused where there is no instance.
        refine if_neg fun instantiated => ?_
        rw [instantiated] at refused
        cases refused
      | _ => rfl
    rw [idle none]
    exact lived
  | inspects =>
    rw [idle rfl]
    exact lived
  | loads =>
    rw [idle rfl]
    exact ⟨fun _ _ => lived.fresh nofun nofun, nofun⟩
  | unreadable | fails | closes =>
    rw [idle rfl]
    exact ⟨fun _ alive => absurd rfl alive, nofun⟩
  | instantiates created =>
    rw [idle rfl, lived.fresh nofun nofun]
    refine ⟨fun before => absurd rfl before, ?_⟩
    rintro inst ⟨⟩
    exact ⟨_, Instance.create_begun created, rfl⟩
  | @runs _ sandbox before left program _ performed =>
    refine ⟨fun before => absurd rfl before, ?_⟩
    rintro _ ⟨⟩
    obtain ⟨started, begun, stored⟩ := lived.stored rfl
    refine ⟨started, ?_, ?_⟩
    · rw [Instance.perform_linked performed]
      exact begun
    · change Instance.performAll _ _ (tasks ++ [⟨.plain .own program, .plain program⟩]) _ = _
      rw [Instance.perform_linked performed, Instance.performAll_append _ stored,
        Annotated.program_plain, Instance.perform_store performed]
      rfl

/-- Operations one after another leave a guest that has lived, with their tasks added. -/
theorem Performs.lived_from {guest after : Guest} {history : List Performed} {tasks : List HostTask}
    (performs : Performs guest history after) (lived : guest.Lived tasks) :
    after.Lived (tasks ++ Performed.tasks guest.stage history) := by
  induction performs generalizing tasks with
  | none => simpa [Performed.tasks] using lived
  | more applied _ ih =>
    have later := ih (Operation.apply_lived applied lived)
    rw [(Operation.apply_stage applied).1, List.append_assoc] at later
    exact later

/-- Whatever was done with a guest, its instance has lived, and its tasks were the programs that were run on
it. -/
theorem Performs.lived {sandbox : Sandbox} {history : List Performed} {guest : Guest}
    (performs : Performs sandbox.guest history guest) :
    guest.Lived (Performed.tasks .unloaded history) :=
  performs.lived_from ⟨fun _ _ => rfl, nofun⟩

end GuestBoundary
