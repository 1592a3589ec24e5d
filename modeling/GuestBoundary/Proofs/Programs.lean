import GuestBoundary.Instance
import GuestBoundary.Proofs.Wasm.Matching
import GuestBoundary.Proofs.Wasm.Traces

/-! Host programs in a context: how their parts compose, the relations between stores that they and the
calls they make all keep, and the failures that those calls end with. -/

namespace GuestBoundary

variable {α β : Type}

/-- A host function that works and then answers a fixed list of the declared types does just that. -/
theorem HostFunction.run_answer {host : HostFunction} {arguments answer : List Value}
    {work : Program α} (body : host.body arguments = work >>= fun _ => pure answer)
    (accepted : host.signature.acceptsResults answer = true) :
    host.run arguments = work >>= fun _ => pure answer := by
  -- With such an answer the check of the results passes.
  rw [run, body, bind_assoc]
  simp only [pure_bind, if_pos accepted]

namespace Context

variable (context : Context)

@[simp] theorem perform_pure (value : α) (store : Store) :
    context.perform (pure value) store = some (.ok value, store) := rfl

@[simp] theorem perform_fail (fault : Fault) (store : Store) :
    context.perform (.fail fault : Program α) store = some (.error fault, store) := rfl

/-- A program that goes on uses the value and the store of the program before it, unless that
failed. -/
theorem perform_bind (program : Program α) (next : α → Program β) (store : Store) :
    context.perform (program >>= next) store =
      match context.perform program store with
      | none => none
      | some (.ok value, left) => context.perform (next value) left
      | some (.error fault, left) => some (.error fault, left) := by
  -- The two programs ask the same requests until the first one ends.
  induction program generalizing store with
  | done value => rfl
  | fail fault => rfl
  | ask request resume ih =>
    change context.perform (.ask request fun reply => (resume reply).bind next) store = _
    simp only [perform]
    cases context.answer request store with
    | none => rfl
    | some answered => exact ih answered.1 answered.2

/-- An attempted program never fails: its outcome is its value. -/
theorem perform_attempt (program : Program α) (store : Store) :
    context.perform program.attempt store =
      match context.perform program store with
      | none => none
      | some (outcome, left) => some (.ok outcome, left) := by
  -- Both programs ask the same requests, and differ only in how they end.
  induction program generalizing store with
  | done value => rfl
  | fail fault => rfl
  | ask request resume ih =>
    simp only [Program.attempt, perform]
    cases context.answer request store with
    | none => rfl
    | some answered => exact ih answered.1 answered.2

@[simp] theorem perform_settle (outcome : Except Fault α) (store : Store) :
    context.perform (Program.settle outcome) store = some (outcome, store) := by
  cases outcome <;> rfl

@[simp] theorem perform_conventions (store : Store) :
    context.perform Program.conventions store = some (.ok context.linked.conventions, store) := rfl

@[simp] theorem perform_note (event : Event) (store : Store) :
    context.perform (Program.note event) store = some (.ok (), store.note event) := rfl

@[simp] theorem perform_hasExport (name : String) (store : Store) :
    context.perform (Program.hasExport name) store =
      some (.ok (context.function? name).isSome, store) := by
  simp [Program.hasExport, perform, answer]

/-- The signature of an export is a fault where there is none over integers alone. -/
theorem perform_signature (name : String) (store : Store) :
    context.perform (Program.signature name) store =
      match context.function? name with
      | none => some (.error (.exportNotFound name), store)
      | some (_, type) =>
        match type.signature? with
        | none => some (.error (.signatureMismatch name (.exportNotInteger type)), store)
        | some signature => some (.ok signature, store) := by
  -- The program asks for the type once, and then only looks at the reply.
  simp only [Program.signature, perform, answer]
  cases context.function? name with
  | none => rfl
  | some function =>
    simp only [Option.map_some]
    cases function.2.signature? <;> rfl

/-- Invoking in a program is invoking in its context. -/
@[simp] theorem perform_invoke (name : String) (arguments : List Value) (store : Store) :
    context.perform (Program.invoke name arguments) store =
      context.invoke name arguments store := by
  -- The reply is the outcome, and the program ends with it.
  simp only [Program.invoke, perform, answer]
  rcases context.invoke name arguments store with _ | ⟨outcome, left⟩
  · rfl
  · exact context.perform_settle outcome left

end Context

/-- The changes that a host program itself can make to a store, its notes apart. -/
inductive HostStep : Store → Store → Prop
  /-- Bytes are written inside memory. -/
  | write {store : Store} {offset : UInt32} {bytes : List UInt8} {memory : Region} :
      store.memory.write offset bytes = .ok memory → HostStep store { store with memory }
  /-- A line is offered to the log. -/
  | log {store : Store} (line : LogLine) : HostStep store { store with log := store.log.add line }

namespace Context

/-- A program keeps a relation in a context if it holds between every store and the one the
program leaves there. -/
def Keeps (context : Context) (relation : Store → Store → Prop) (program : Program α) : Prop :=
  ∀ store outcome left, context.perform program store = some (outcome, left) → relation store left

/-- Everything that a context can call keeps a relation. -/
def CallsKeep (context : Context) (relation : Store → Store → Prop) : Prop :=
  ∀ id arguments, (context.call id arguments).Keeps relation

variable {context : Context} {relation : Store → Store → Prop}

/-- Invoking keeps what calls keep, since a rejected call leaves the store as it is. -/
theorem invoke_keeps (composes : Run.Composes relation) (calls : context.CallsKeep relation)
    {name : String} {arguments : List Value} {store left : Store}
    {outcome : Except Fault (List Value)}
    (invoked : context.invoke name arguments store = some (outcome, left)) :
    relation store left := by
  unfold invoke at invoked
  split at invoked
  · -- A call that fails a check runs nothing.
    cases invoked
    exact composes.refl store
  · rename_i id passed _
    simp only [Run.surface] at invoked
    cases ran : context.call id passed store with
    | none => simp [ran] at invoked
    | some ended =>
      obtain ⟨ending, stopped⟩ := ended
      simp only [ran, Option.some.injEq, Prod.mk.injEq] at invoked
      exact invoked.2 ▸ calls id passed store ending stopped ran

/-- A request keeps what the steps of a host and the calls of the context keep. -/
theorem answer_keeps (composes : Run.Composes relation) (calls : context.CallsKeep relation)
    (step : ∀ {store left}, HostStep store left → relation store left)
    {request : Request} (unnoted : ∀ event, request ≠ .note event) {store left : Store}
    {reply : request.Reply} (answered : context.answer request store = some (reply, left)) :
    relation store left := by
  -- Only three kinds of request can change a store: a call, a write and a line.
  cases request with
  | invoke name arguments => exact invoke_keeps composes calls answered
  | write memory offset bytes =>
    simp only [answer] at answered
    split at answered
    · rename_i written held
      cases answered
      -- The write went to the one memory of the store.
      cases shown : context.memory memory store with
      | error fault => simp [shown, Except.bind] at held
      | ok region =>
        simp only [shown, Except.bind] at held
        simp only [Context.memory] at shown
        split at shown
        · cases shown; exact step (.write held)
        · cases shown
    · cases answered
      exact composes.refl store
  | log message =>
    cases answered
    exact step (.log _)
  | note event => exact absurd rfl (unnoted event)
  | _ =>
    cases answered
    exact composes.refl store

/-- Every program keeps what notes, the steps of a host and the calls of its context keep. -/
theorem perform_keeps (composes : Run.Composes relation) (calls : context.CallsKeep relation)
    (step : ∀ {store left}, HostStep store left → relation store left)
    (notes : ∀ store event, relation store (store.note event)) (program : Program α) :
    context.Keeps relation program := by
  -- Each reply comes with a store, from which the rest of the program goes on.
  induction program with
  | done value =>
    rintro store outcome left ⟨⟩
    exact composes.refl store
  | fail fault =>
    rintro store outcome left ⟨⟩
    exact composes.refl store
  | ask request resume ih =>
    intro store outcome left performed
    simp only [perform] at performed
    split at performed
    · cases performed
    · rename_i reply middle answered
      refine composes.trans ?_ (ih reply middle outcome left performed)
      by_cases noted : ∃ event, request = .note event
      · obtain ⟨event, rfl⟩ := noted
        cases answered
        exact notes store event
      · exact answer_keeps composes calls step (fun event same => noted ⟨event, same⟩) answered

end Context

namespace Linked

/-- What the bodies of a guest's functions run in while so many more calls may become active. -/
def surroundings (linked : Linked) (patience depth : Nat) : Wasm.Surroundings where
  callable? := linked.callable? (linked.call patience depth .guest)
  maxPages := linked.maxPages
  patience

section

variable {linked : Linked} {patience depth : Nat} {id : String}

/-- A function that guest code can call runs as a call of it does. -/
theorem callable?_run {call : String → List Value → Run (List Value)}
    {callable : Wasm.Callable} (found : linked.callable? call id = some callable) :
    callable.run = call id := by
  -- Host functions and the guest's own functions are called by the same names.
  unfold callable? at found
  split at found
  · cases found
    rfl
  · simp only [Option.bind_eq_bind, Option.bind_eq_some_iff] at found
    obtain ⟨function, _, signature, _, same⟩ := found
    cases same
    rfl

/-- A host function is performed in the context of its caller. -/
theorem call_host {host : HostFunction} (bound : linked.hosts.lookup id = some host)
    (caller : Caller) (arguments : List Value) :
    linked.call patience (depth + 1) caller id arguments =
      Run.carry ((linked.context patience depth (caller == .guest) host.name).perform
        (host.run arguments)) := by
  rw [call, bound]
  rfl

/-- A function of the guest runs its own code. -/
theorem call_function {function : Wasm.Function} (own : linked.hosts.lookup id = none)
    (defined : linked.guest.function? id = some function) (caller : Caller)
    (arguments : List Value) :
    linked.call patience (depth + 1) caller id arguments =
      function.run (linked.surroundings patience depth) arguments := by
  rw [call, own, defined]
  rfl

/-- A function that is nowhere cannot be called. -/
theorem call_missing (own : linked.hosts.lookup id = none)
    (undefined : linked.guest.function? id = none) (caller : Caller) (arguments : List Value) :
    linked.call patience (depth + 1) caller id arguments = Run.trap .illTyped := by
  rw [call, own, undefined]

end

/-- Calls keep what the steps of a guest keep, if the host functions keep it wherever calls do. -/
theorem call_keeps {relation : Store → Store → Prop} (composes : Run.Composes relation)
    (linked : Linked) (patience : Nat)
    (step : ∀ {store left}, Wasm.GuestStep linked.maxPages store left → relation store left)
    (hosts : ∀ {id host}, linked.hosts.lookup id = some host →
      ∀ context : Context, context.linked = linked → context.CallsKeep relation →
        ∀ arguments, context.Keeps relation (host.run arguments))
    (depth : Nat) (caller : Caller) (id : String) (arguments : List Value) :
    (linked.call patience depth caller id arguments).Keeps relation := by
  -- Whatever a call runs can only make calls of a smaller depth.
  induction depth generalizing caller id arguments with
  | zero => exact Run.keeps_trap composes _
  | succ depth ih =>
    intro store outcome left ran
    cases bound : linked.hosts.lookup id with
    | some host =>
      rw [call_host bound, Run.carry] at ran
      split at ran
      · cases ran
      · rename_i ending stopped performed
        cases ran
        exact hosts bound (linked.context patience depth (caller == .guest) host.name) rfl
          (ih .host) arguments store ending left performed
    | none =>
      cases defined : linked.guest.function? id with
      | none =>
        rw [call_missing bound defined] at ran
        exact Run.keeps_trap composes _ store outcome left ran
      | some function =>
        rw [call_function bound defined] at ran
        refine Wasm.Function.run_keeps composes step ?_ function arguments store outcome left ran
        -- Guest code calls by the same names, with the instance as the caller.
        intro name callable found operands
        rw [callable?_run found]
        exact ih .guest name operands

end Linked

namespace Linked

/-- Calls fail only as allowed, if guest code may fail by itself and each host function raises only what
is allowed wherever the calls of its context do. -/
theorem call_failsAs {allowed : Failure → Prop} (own : Wasm.AllowsOwn allowed) (linked : Linked)
    (patience : Nat)
    (hosts : ∀ {id host}, linked.hosts.lookup id = some host → ∀ context : Context,
      context.linked = linked → (∀ id arguments, (context.call id arguments).FailsAs allowed) →
        ∀ arguments store fault left,
          context.perform (host.run arguments) store = some (.error fault, left) →
            allowed (.raised fault))
    (depth : Nat) (caller : Caller) (id : String) (arguments : List Value) :
    (linked.call patience depth caller id arguments).FailsAs allowed := by
  -- Whatever a call runs can only make calls of a smaller depth.
  induction depth generalizing caller id arguments with
  | zero => exact Wasm.trap_failsAs own _
  | succ depth ih =>
    cases bound : linked.hosts.lookup id with
    | some host =>
      intro store failure left failed
      rw [call_host bound, Run.carry] at failed
      split at failed
      · cases failed
      · -- A host function fails as its program does, whose calls are covered.
        rename_i ending stopped performed
        cases ending with
        | ok values => cases failed
        | error fault =>
          cases failed
          exact hosts bound (linked.context patience depth (caller == .guest) host.name) rfl
            (ih .host) arguments store fault _ performed
    | none =>
      cases defined : linked.guest.function? id with
      | none =>
        rw [call_missing bound defined]
        exact Wasm.trap_failsAs own _
      | some function =>
        rw [call_function bound defined]
        refine Wasm.Function.run_failsAs own ?_ function arguments
        -- What guest code calls, it calls by the same names.
        intro name callable found operands
        rw [callable?_run found]
        exact ih .guest name operands

end Linked

/-- Instantiation writes its segments as guest code does, and then at most makes one call. -/
theorem Instance.begin_keeps {relation : Store → Store → Prop} (composes : Run.Composes relation)
    (engine : Engine) {linked : Linked}
    (step : ∀ {store left}, Wasm.GuestStep linked.maxPages store left → relation store left)
    (calls : ∀ id arguments,
      (linked.call engine.patience engine.depth .guest id arguments).Keeps relation) :
    (Instance.begin engine linked).Keeps relation := by
  -- The segments come first, and the start function runs on what they left.
  refine Run.keeps_bind composes (Wasm.segments_keeps composes step _) fun _ => ?_
  split
  · exact Run.keeps_pure composes _
  · exact Run.keeps_bind composes (calls _ _) fun _ => Run.keeps_pure composes _

end GuestBoundary
