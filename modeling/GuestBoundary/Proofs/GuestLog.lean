import GuestBoundary.Proofs.Lifecycle
import GuestBoundary.Proofs.Programs
import GuestBoundary.Proofs.Wasm.Traces

/-! The guest log: it holds what host functions have said, each line under the function that was running
when it was said, up to the limit. -/

namespace GuestBoundary

/-- What matters to the log of what happens on an instance. -/
inductive HostEvent where
  /-- A host function starts. -/
  | entered (function : String)
  /-- The host function that has started last ends, with results or with a fault. -/
  | left
  | said (message : String)
  deriving DecidableEq

namespace HostEvent

/-- The host functions that are running after an event, the innermost first. -/
def next (running : List String) : HostEvent → List String
  | .entered function => function :: running
  | .left => running.tail
  | .said _ => running

/-- The line that an event asks for: a message under the innermost host function. -/
def line? (running : List String) : HostEvent → Option LogLine
  | .said message => running.head?.map (⟨·, message⟩)
  | _ => none

/-- The host functions that are running after events. -/
def runningAfter (running : List String) (events : List HostEvent) : List String :=
  events.foldl next running

/-- The lines that events ask for, while the given host functions are running at first. -/
def lines (running : List String) : List HostEvent → List LogLine
  | [] => []
  | event :: rest => (event.line? running).toList ++ lines (event.next running) rest

/-- Later events ask for lines under the host functions that the earlier ones leave running. -/
theorem lines_append (running : List String) (first second : List HostEvent) :
    lines running (first ++ second) =
      lines running first ++ lines (runningAfter running first) second := by
  induction first generalizing running with
  | nil => rfl
  | cons event rest ih => simp [lines, runningAfter, ih]

end HostEvent

namespace GuestLog

/-- A log that does not record stays as it is. -/
theorem foldl_add_off {log : GuestLog} (off : log.recording = false) (lines : List LogLine) :
    lines.foldl add log = log := by
  induction lines with
  | nil => rfl
  | cons line rest ih => rw [List.foldl_cons, add, off, Bool.false_and, if_neg nofun, ih]

/-- A log that records takes as many lines as it has room for, in their order. -/
theorem foldl_add_on {log : GuestLog} (on : log.recording = true) (lines : List LogLine) :
    (lines.foldl add log).lines.toList =
      log.lines.toList ++ lines.take (log.capacity - log.lines.size) := by
  induction lines generalizing log with
  | nil => simp
  | cons line rest ih =>
    rw [List.foldl_cons, add, on, Bool.true_and]
    split
    · -- The line is taken, and leaves room for one less.
      rename_i room
      have positive : log.lines.size < log.capacity := of_decide_eq_true room
      rw [ih rfl, ← Nat.succ_pred_eq_of_pos (Nat.sub_pos_of_lt positive), List.take_succ_cons]
      simp [Nat.sub_sub]
    · -- A full log takes none of the rest either.
      rename_i full
      have none : log.capacity - log.lines.size = 0 :=
        Nat.sub_eq_zero_of_le (Nat.not_lt.mp fun room => full (decide_eq_true room))
      rw [ih on, none, List.take_zero, List.take_zero]

/-- Adding lines only adds to what is there. -/
theorem prefix_foldl_add (lines : List LogLine) (log : GuestLog) :
    log.lines.toList <+: (lines.foldl add log).lines.toList := by
  cases recording : log.recording with
  | false => simp [foldl_add_off recording]
  | true =>
    rw [foldl_add_on recording]
    exact List.prefix_append _ _

end GuestLog

/-- The lines that are recorded of those that are asked for. -/
def Settings.recorded (settings : Settings) (lines : List LogLine) : List LogLine :=
  if settings.enableGuestLogs then lines.take settings.maxLogLines.toNat else []

/-- A new log records the first lines up to its limit, or none at all. -/
theorem GuestLog.foldl_add_new (settings : Settings) (lines : List LogLine) :
    (lines.foldl add (new settings)).lines.toList = settings.recorded lines := by
  unfold Settings.recorded
  split
  · rename_i enabled
    have on : (new settings).recording = true := enabled
    simpa [new] using foldl_add_on on lines
  · rename_i disabled
    have off : (new settings).recording = false := by simpa [new] using disabled
    rw [foldl_add_off off]
    rfl

/-- No more is recorded than the limit allows. -/
theorem Settings.length_recorded_le (settings : Settings) (lines : List LogLine) :
    (settings.recorded lines).length ≤ settings.maxLogLines.toNat := by
  unfold recorded
  split
  · exact List.length_take_le _ _
  · exact Nat.zero_le _

/-- While the given host functions are running, events lead from a log to another: in the end the same
functions are running, and the log has been offered the lines of the events. -/
structure Speaks (running : List String) (events : List HostEvent) (log after : GuestLog) : Prop where
  balanced : HostEvent.runningAfter running events = running
  log : after = (HostEvent.lines running events).foldl GuestLog.add log

namespace Speaks

variable {running : List String} {events : List HostEvent} {log after : GuestLog}

theorem refl (running : List String) (log : GuestLog) : Speaks running [] log log := ⟨rfl, rfl⟩

/-- The same functions are running in between, so both parts ask for their lines as they stand. -/
theorem append {later : List HostEvent} {last : GuestLog} (first : Speaks running events log after)
    (second : Speaks running later after last) : Speaks running (events ++ later) log last := by
  refine ⟨?_, ?_⟩
  · rw [HostEvent.runningAfter, List.foldl_append]
    exact (congrArg (HostEvent.runningAfter · _) first.balanced).trans second.balanced
  · rw [HostEvent.lines_append, first.balanced, List.foldl_append, ← first.log, second.log]

/-- What is said while a host function runs is said under its name; when it ends, the functions around
it run on. -/
theorem enclose {function : String} (inner : Speaks (function :: running) events log after) :
    Speaks running (.entered function :: events ++ [.left]) log after := by
  have inside : HostEvent.runningAfter running (.entered function :: events) = function :: running :=
    inner.balanced
  refine ⟨?_, ?_⟩
  · rw [HostEvent.runningAfter, List.foldl_append]
    exact congrArg List.tail inside
  · rw [HostEvent.lines_append, inside]
    simpa [HostEvent.lines, HostEvent.line?, HostEvent.next] using inner.log

end Speaks

/-- Events lead from a store to another as they lead from its log to the other one's. -/
def StoreSpeaks (running : List String) (events : List HostEvent) (store left : Store) : Prop :=
  Speaks running events store.log left.log

namespace StoreSpeaks

theorem composes (running : List String) : Trace.Composes (StoreSpeaks running) where
  refl _ := .refl _ _
  append := .append

/-- Guest code does not touch the log. -/
theorem guestStep {running : List String} {maxPages : Nat} {store left : Store}
    (step : Wasm.GuestStep maxPages store left) : StoreSpeaks running [] store left := by
  cases step <;> exact .refl _ _

end StoreSpeaks

namespace Context

variable {α : Type}

/-- The events of a request, given those of calls. -/
def requestEvents (context : Context) (calls : String → List Value → Trace HostEvent) :
    Request → Trace HostEvent
  | .log message, _ => [.said message]
  | .invoke name arguments, store =>
    match context.prepare name arguments with
    | .error _ => []
    | .ok (id, arguments) => calls id arguments store
  | _, _ => []

/-- The events of a host program, request by request. -/
def events (context : Context) (calls : String → List Value → Trace HostEvent) :
    Program α → Trace HostEvent
  | .done _, _ => []
  | .fail _, _ => []
  | .ask request resume, store =>
    context.requestEvents calls request store ++
      match context.answer request store with
      | none => []
      | some (reply, left) => context.events calls (resume reply) left

/-- The calls of a context say what their events tell, whatever host functions are running. -/
def CallsSpeak (context : Context) (calls : String → List Value → Trace HostEvent) : Prop :=
  ∀ running id arguments, (context.call id arguments).Traced (StoreSpeaks running) (calls id arguments)

variable {context : Context} {calls : String → List Value → Trace HostEvent}

/-- A request says what its events tell, under the name of the host function that makes it. -/
theorem answer_speaks (speak : context.CallsSpeak calls) (around : List String) {request : Request}
    {reply : request.Reply} {store left : Store}
    (answered : context.answer request store = some (reply, left)) :
    Speaks (context.self :: around) (context.requestEvents calls request store) store.log
      left.log := by
  cases request with
  | log message =>
    cases answered
    exact ⟨rfl, rfl⟩
  | invoke name arguments =>
    simp only [answer, invoke] at answered
    simp only [requestEvents]
    cases prepared : context.prepare name arguments with
    | error fault =>
      rw [prepared] at answered
      cases answered
      exact .refl _ _
    | ok entered =>
      -- The call passes all checks, and says what the function says that it enters.
      rw [prepared] at answered
      dsimp only at answered
      unfold Run.surface at answered
      split at answered
      · cases answered
      · rename_i ran
        cases answered
        exact speak _ _ _ _ _ _ ran
  | write memory offset bytes =>
    simp only [answer] at answered
    split at answered <;> cases answered <;> exact .refl _ _
  | _ =>
    cases answered
    exact .refl _ _

/-- A host program says what its events tell, however it ends. -/
theorem perform_speaks (speak : context.CallsSpeak calls) (around : List String) {program : Program α}
    {store left : Store} {outcome : Except Fault α}
    (performed : context.perform program store = some (outcome, left)) :
    Speaks (context.self :: around) (context.events calls program store) store.log left.log := by
  -- Each request says its part, and the program goes on from the store that it left.
  induction program generalizing store with
  | done | fail =>
    cases performed
    exact .refl _ _
  | ask request resume ih =>
    simp only [perform] at performed
    unfold events
    cases answered : context.answer request store with
    | none =>
      rw [answered] at performed
      cases performed
    | some replied =>
      rw [answered] at performed
      exact Speaks.append (answer_speaks speak around answered) (ih replied.1 performed)

end Context

namespace Linked

/-- The events of a call, with those of all calls that it leads to. -/
def events (linked : Linked) (patience : Nat) :
    (depth : Nat) → Caller → String → List Value → Trace HostEvent
  | 0, _, _, _ => .silent
  | depth + 1, caller, id, arguments =>
    match linked.hosts.lookup id with
    | some host => fun store =>
      .entered host.name ::
        (linked.context patience depth (caller == .guest) host.name).events
          (linked.events patience depth .host) (host.run arguments) store ++ [.left]
    | none =>
      match linked.guest.function? id with
      | some function =>
        function.trace (linked.surroundings patience depth) (linked.events patience depth .guest)
          arguments
      | none => .silent

/-- A call says what its events tell, at every depth and whatever host functions are running. -/
theorem call_speaks (linked : Linked) (patience depth : Nat) (caller : Caller)
    (running : List String) (id : String) (arguments : List Value) :
    (linked.call patience depth caller id arguments).Traced (StoreSpeaks running)
      (linked.events patience depth caller id arguments) := by
  -- Whatever a call runs can only make calls of a smaller depth.
  induction depth generalizing caller running id arguments with
  | zero => exact Run.traced_trap (StoreSpeaks.composes running) _
  | succ depth ih =>
    unfold events
    cases bound : linked.hosts.lookup id with
    | some host =>
      have speak : (linked.context patience depth (caller == .guest) host.name).CallsSpeak
          (linked.events patience depth .host) := ih .host
      intro store outcome left ran
      rw [call_host bound, Run.carry] at ran
      split at ran
      · cases ran
      · rename_i performed
        cases ran
        exact (Context.perform_speaks speak running performed).enclose
    | none =>
      cases defined : linked.guest.function? id with
      | none =>
        rw [call_missing bound defined]
        exact Run.traced_trap (StoreSpeaks.composes running) _
      | some function =>
        rw [call_function bound defined]
        refine Wasm.Function.run_traced (StoreSpeaks.composes running) StoreSpeaks.guestStep ?_
          function arguments
        -- Guest code calls by the same names, with the instance as the caller.
        intro name callable found operands
        rw [callable?_run found]
        exact ih .guest running name operands

end Linked

namespace Instance

variable (engine : Engine) (linked : Linked)

/-- The events of instantiation, which are those of the start function. -/
def beginEvents : Trace HostEvent :=
  Trace.andThen .silent
    (linked.guest.segments.forM fun segment => Wasm.storeBytes segment.offset segment.bytes)
    fun _ =>
      match linked.guest.start with
      | none => .silent
      | some id => linked.events engine.patience engine.depth .guest id []

/-- Instantiation says what its events tell, also if it fails. -/
theorem begin_speaks (running : List String) :
    (begin engine linked).Traced (StoreSpeaks running) (beginEvents engine linked) := by
  -- The segments say nothing, and the start function is a call.
  have composes := StoreSpeaks.composes running
  have step {store left : Store} : Wasm.GuestStep linked.maxPages store left →
      StoreSpeaks running [] store left := StoreSpeaks.guestStep
  refine Run.traced_bind composes
    (Run.traced_silent (Wasm.segments_keeps composes.still step _)) fun _ => ?_
  cases linked.guest.start with
  | none => exact Run.traced_pure composes _
  | some id => exact Run.traced_map composes (Linked.call_speaks linked _ _ _ running id []) _

end Instance

/-- The events of an operation on a guest. -/
def Operation.events {α : Type} (guest : Guest) : Operation α → List HostEvent
  | .instantiate =>
    match guest.phase with
    | .loaded code =>
      match Linked.link guest.sandbox.settings guest.sandbox.registry code with
      | .ok linked =>
        Instance.beginEvents guest.sandbox.engine linked
          (Instance.initialStore guest.sandbox.settings linked)
      | .error _ => []
    | _ => []
  | .run program =>
    match guest.phase with
    | .instantiated inst =>
      (Instance.context guest.sandbox.engine inst.linked).events
        (inst.linked.events guest.sandbox.engine.patience guest.sandbox.engine.depth .host)
        program inst.store
    | _ => []
  | _ => []

namespace Guest

/-- The events of operations that are performed on a guest one after another. -/
def events : Guest → List Performed → List HostEvent
  | _, [] => []
  | guest, performed :: rest =>
    performed.operation.events guest ++
      match performed.operation.apply guest with
      | none => []
      | some (_, after) => after.events rest

/-- The log of a guest's instance, which is new before there is one. -/
def log (guest : Guest) : GuestLog :=
  match guest.phase with
  | .instantiated inst => inst.store.log
  | _ => .new guest.sandbox.settings

end Guest

/-- An operation that does not close its guest says what its events tell. -/
theorem Operation.apply_speaks {α : Type} {operation : Operation α} {outcome : Except Fault α}
    {guest after : Guest} (applied : operation.apply guest = some (outcome, after))
    (left : after.stage ≠ .closed) : Speaks ["host"] (operation.events guest) guest.log after.log := by
  cases apply_leads applied with
  | @refused _ operation guest required refused _ =>
    -- At another stage there is nothing that could run.
    have none : operation.events guest = [] := by
      rcases guest with ⟨sandbox, _ | code | inst | _⟩ <;> cases operation <;>
        first | rfl | cases refused
    rw [none]
    exact ⟨rfl, rfl⟩
  | loads | inspects => exact ⟨rfl, rfl⟩
  | unreadable | fails | closes => exact absurd rfl left
  | @instantiates sandbox code inst created =>
    -- The log is new when instantiation starts, and so it is before.
    have begun := Instance.begin_speaks _ _ ["host"] _ _ _ (Instance.create_begun created)
    simp only [events, Instance.create_ok created]
    exact begun
  | @runs _ sandbox inst left program _ performed =>
    have speak : (Instance.context sandbox.engine inst.linked).CallsSpeak
        (inst.linked.events sandbox.engine.patience sandbox.engine.depth .host) :=
      inst.linked.call_speaks _ _ .host
    exact Context.perform_speaks speak [] (Instance.perform_store performed)

/-- Operations that do not close a guest say what their events tell, one after another. -/
theorem Performs.speaks {guest after : Guest} {history : List Performed}
    (performs : Performs guest history after) (still : after.stage ≠ .closed) :
    Speaks ["host"] (guest.events history) guest.log after.log := by
  induction performs with
  | none => exact .refl _ _
  | more applied rest ih =>
    -- What is not closed in the end was not closed before, since a closed guest stays as it is.
    simp only [Guest.events, applied]
    refine .append (Operation.apply_speaks applied fun closed => ?_) (ih still)
    exact still (by rw [rest.closed_eq closed]; exact closed)

namespace Guest

/-- The lines of a guest are those of its log. -/
theorem log_lines (guest : Guest) : guest.log.lines.toList = guest.logs.toList := by
  rcases guest with ⟨sandbox, _ | code | inst | _⟩ <;> rfl

/--
The log of an instance holds what its host functions have said since its store was created.

Whatever was performed on a guest, the lines of its instance are the first of those asked for, up to the
limit and in their order, and none if the log is off. Each line stands under the host function that was
running when it was asked for, also where host functions call the guest that calls host functions in
turn, and where any of them fails. An operation only adds to the log, even if it fails, and never beyond
the limit. The same holds inside of every run: of instantiation, failed or not, and of every call at any
depth, whatever host functions are running around it.
-/
theorem log_law {sandbox : Sandbox} {history : List Performed} {guest : Guest}
    (performs : Performs sandbox.guest history guest) :
    (guest.stage = .instantiated → guest.logs.toList =
      sandbox.settings.recorded (HostEvent.lines ["host"] (sandbox.guest.events history))) ∧
    guest.logs.size ≤ sandbox.settings.maxLogLines.toNat ∧
    (∀ {α : Type} (operation : Operation α) outcome after,
      operation.apply guest = some (outcome, after) → after.stage = .instantiated →
        guest.logs.toList <+: after.logs.toList) ∧
    (∀ linked outcome left,
      Instance.begin sandbox.engine linked (Instance.initialStore sandbox.settings linked) =
          some (outcome, left) →
        left.log.lines.toList = sandbox.settings.recorded (HostEvent.lines []
          (Instance.beginEvents sandbox.engine linked
            (Instance.initialStore sandbox.settings linked)))) ∧
    ∀ (linked : Linked) patience depth caller id arguments store outcome left running,
      linked.call patience depth caller id arguments store = some (outcome, left) →
        Speaks running (linked.events patience depth caller id arguments store) store.log left.log := by
  have lines : guest.stage = .instantiated → guest.logs.toList =
      sandbox.settings.recorded (HostEvent.lines ["host"] (sandbox.guest.events history)) := by
    intro instantiated
    rw [← log_lines, (performs.speaks (by rw [instantiated]; exact Stage.noConfusion)).log]
    exact GuestLog.foldl_add_new _ _
  refine ⟨lines, ?_, fun operation outcome after applied instantiated => ?_,
    fun linked outcome left begun => ?_,
    fun linked patience depth caller id arguments store outcome left running ran =>
      linked.call_speaks patience depth caller running id arguments store outcome left ran⟩
  · by_cases instantiated : guest.stage = .instantiated
    · rw [← Array.length_toList, lines instantiated]
      exact sandbox.settings.length_recorded_le _
    · rw [(nothing_recorded instantiated).1]
      exact Nat.zero_le _
  · -- An operation on an instance goes on from its log, and before that there is none.
    have spoken := Operation.apply_speaks applied (by rw [instantiated]; exact Stage.noConfusion)
    rw [← log_lines, ← log_lines, spoken.log]
    exact GuestLog.prefix_foldl_add _ _
  · have spoken := Instance.begin_speaks sandbox.engine linked [] _ _ _ begun
    rw [spoken.log]
    exact GuestLog.foldl_add_new _ _

end Guest

namespace Sample

/-- A guest that passes calls on to two host functions, to one of them as it starts. -/
def switchboard : Wasm.Module :=
  { Wasm.Module.empty with
    imports := [⟨"env", "outer", .function "outer" ⟨[], []⟩⟩,
      ⟨"env", "inner", .function "inner" ⟨[], []⟩⟩]
    memories := [⟨1, none⟩]
    functions := [⟨"up", ⟨[], []⟩, [], [.call "outer"]⟩, ⟨"down", ⟨[], []⟩, [], [.call "inner"]⟩]
    exports := [⟨"memory", .memory 0⟩, ⟨"up", .function "up"⟩, ⟨"down", .function "down"⟩]
    start := some "down" }

/-- A host function that talks before and after it calls the guest, and then fails. -/
def outer : HostFunction where
  space := "env"
  name := "outer"
  signature := .words 0 0
  body _ := do
    Program.log "before"
    let _ ← Program.invoke "down" []
    Program.log "after"
    Program.log "late"
    .fail (.engine "stop")

/-- A host function that only talks. -/
def inner : HostFunction where
  space := "env"
  name := "inner"
  signature := .words 0 0
  body _ := do
    Program.log "here"
    return []

/-- A sandbox whose logs hold four lines. -/
def talkative : Sandbox where
  engine
  settings := { Settings.default with maxLogLines := 4 }
  registry := ⟨[outer, inner], List.pairwise_pair.mpr fun same => absurd same.2 (by decide)⟩

end Sample

namespace Guest

/-- The inner function talks at the start and inside of the outer one, which then talks under its own
name again until the log is full, and fails. -/
theorem log_law_sample :
    ∃ guest, Performs Sample.talkative.guest
      [⟨.load (.described Sample.switchboard), .ok ()⟩, ⟨.instantiate, .ok ()⟩,
        ⟨.run (Program.invoke "up" []), .error (.engine "stop")⟩] guest ∧
      guest.logs.toList =
        [⟨"inner", "here"⟩, ⟨"outer", "before"⟩, ⟨"inner", "here"⟩, ⟨"outer", "after"⟩] := by
  have run : ∃ guest, Performs Sample.talkative.guest
      [⟨.load (.described Sample.switchboard), .ok ()⟩, ⟨.instantiate, .ok ()⟩,
        ⟨.run (Program.invoke "up" []), .error (.engine "stop")⟩] guest ∧
      guest.stage = .instantiated :=
    ⟨_, .more rfl (.more rfl (.more rfl .none)), rfl⟩
  obtain ⟨guest, performs, instantiated⟩ := run
  refine ⟨guest, performs, ?_⟩
  rw [(log_law performs).1 instantiated]
  rfl

end Guest

end GuestBoundary
