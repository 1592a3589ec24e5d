import GuestBoundary.Program.Transfer
import GuestBoundary.Proofs.Programs

/-! Moments: what happens on an instance, one thing after another, and the store before and after each.
Everything that is said of all runs follows from what a single moment can be. -/

namespace GuestBoundary

/-- What a host makes a request for. -/
inductive Purpose where
  /-- Ends of its own. -/
  | own
  /-- The release of a buffer. -/
  | release (buffer : Buffer)

/-- An operation of the protocol that hands a buffer out. -/
inductive Producer where
  | allocate (length : UInt32)
  | copyIn (bytes : List UInt8)
  | readGuestBuffer (values : List Value)
  | writeOutSlots (bytes : List UInt8) (pointerSlot lengthSlot : UInt32)

/-- Run a producer. -/
def Producer.program : Producer → Program Buffer
  | .allocate length => Program.allocate length
  | .copyIn bytes => Program.copyIn bytes
  | .readGuestBuffer values => Program.readGuestBuffer values
  | .writeOutSlots bytes pointerSlot lengthSlot =>
    Program.writeOutSlots bytes pointerSlot lengthSlot

/-- A point in a host program that an operation of the protocol has come to. -/
inductive Mark where
  /-- A producer hands a buffer out. -/
  | obtained (producer : Producer) (buffer : Buffer)
  /-- The host releases a buffer. -/
  | releasing (buffer : Buffer)
  /-- A scope, or an operation that cleans up after itself, releases a buffer of its own. -/
  | closing (buffer : Buffer)

/-- What can happen on an instance. -/
inductive Happening where
  /-- Guest code is charged for a function or for an iteration of a loop, if the meter allows it. -/
  | charged
  | executed (instruction : Wasm.Instruction) (frame : Wasm.Frame)
  /-- A segment is written at instantiation. -/
  | placed (segment : Wasm.Segment)
  /-- A request is answered without entering a function. -/
  | asked (purpose : Purpose) (request : Request)
  /-- The host enters a function of the instance. -/
  | entered (purpose : Purpose) (id : String) (arguments : List Value)
  | marked (mark : Mark)

/-- Something that happens, with the store before and after it. -/
structure Moment where
  event : Happening
  before : Store
  after : Store

/-- A mark at a store, which it leaves as it is. -/
def Mark.at (mark : Mark) (store : Store) : Moment := ⟨.marked mark, store, store⟩

/-- Something of a kind has happened before. -/
def Happened (event : Happening) (earlier : List Moment) : Prop :=
  ∃ moment ∈ earlier, moment.event = event

theorem Happened.append {event : Happening} {earlier : List Moment}
    (happened : Happened event earlier) (later : List Moment) :
    Happened event (earlier ++ later) := by
  obtain ⟨moment, member, same⟩ := happened
  exact ⟨moment, List.mem_append_left later member, same⟩

/-- What has just happened has happened. -/
theorem happened_last (earlier : List Moment) (moment : Moment) :
    Happened moment.event (earlier ++ [moment]) :=
  ⟨moment, List.mem_append_right earlier (List.mem_singleton_self moment), rfl⟩

/-- The function that a request enters, with the arguments that it is entered with. -/
def Context.entered? (context : Context) : Request → Option (String × List Value)
  | .invoke name arguments =>
    match context.prepare name arguments with
    | .ok entry => some entry
    | .error _ => none
  | _ => none

/-- The span of a buffer lies inside the memory of a store. -/
def Buffer.Inside (buffer : Buffer) (store : Store) : Prop :=
  buffer.pointer.toNat + buffer.length.toNat ≤ store.memory.size

/-- The guest's allocator has given a buffer to the host. -/
def Allocated (buffer : Buffer) (earlier : List Moment) : Prop :=
  ∃ length, Happened (.marked (.obtained (.allocate length) buffer)) earlier

theorem Allocated.append {buffer : Buffer} {earlier : List Moment}
    (allocated : Allocated buffer earlier) (later : List Moment) :
    Allocated buffer (earlier ++ later) := by
  obtain ⟨length, happened⟩ := allocated
  exact ⟨length, happened.append later⟩

/-- Entering a function with arguments is calling the deallocator that the conventions name, for a
buffer. -/
def Linked.Deallocates (linked : Linked) (buffer : Buffer) (id : String) (arguments : List Value) :
    Prop :=
  ∃ deallocator given, ∃ signature : Signature,
    linked.conventions.freeExport = some deallocator ∧
    linked.guest.exportedFunction? deallocator = some id ∧
    linked.guest.type? id = some signature.funcType ∧
    Program.deallocatorArguments deallocator buffer signature.arity = .ok given ∧
    Context.checkArguments deallocator signature given = .ok arguments

/-- The moments that there can be on a linked guest, after other moments. -/
inductive Occurs (linked : Linked) (earlier : List Moment) : Moment → Prop
  | charged {store left : Store} {outcome : Except Failure Unit} :
      Run.charge store = some (outcome, left) → Occurs linked earlier ⟨.charged, store, left⟩
  | executed {surroundings : Wasm.Surroundings} {instruction : Wasm.Instruction}
      {frame : Wasm.Frame} {store left : Store} {outcome : Except Failure Wasm.Frame} :
      surroundings.maxPages = linked.maxPages →
      Wasm.simple surroundings instruction frame store = some (outcome, left) →
      Occurs linked earlier ⟨.executed instruction frame, store, left⟩
  | placed {segment : Wasm.Segment} {store left : Store} {outcome : Except Failure Unit} :
      Wasm.storeBytes segment.offset segment.bytes store = some (outcome, left) →
      Occurs linked earlier ⟨.placed segment, store, left⟩
  | asked {context : Context} {purpose : Purpose} {request : Request} {reply : request.Reply}
      {store left : Store} : context.linked = linked → context.entered? request = none →
      context.answer request store = some (reply, left) →
      Occurs linked earlier ⟨.asked purpose request, store, left⟩
  | entered {context : Context} {request : Request} {id : String} {arguments : List Value}
      {store : Store} : context.linked = linked → context.entered? request = some (id, arguments) →
      Occurs linked earlier ⟨.entered .own id arguments, store, store⟩
  | deallocates {buffer : Buffer} {id : String} {arguments : List Value} {store : Store} :
      buffer.owner = .hostOwned → linked.Deallocates buffer id arguments →
      Happened (.marked (.releasing buffer)) earlier ∨
        Happened (.marked (.closing buffer)) earlier →
      Occurs linked earlier ⟨.entered (.release buffer) id arguments, store, store⟩
  | allocates {pointer length : UInt32} {store : Store} : pointer ≠ 0 → length ≠ 0 →
      Buffer.Inside ⟨⟨pointer, length⟩, .hostOwned⟩ store →
      Occurs linked earlier
        (Mark.at (.obtained (.allocate length) ⟨⟨pointer, length⟩, .hostOwned⟩) store)
  | obtains {producer : Producer} {buffer : Buffer} {store : Store} :
      (∀ length, producer ≠ .allocate length) → buffer.Inside store →
      (buffer.owner = .hostOwned → Allocated buffer earlier) →
      Occurs linked earlier (Mark.at (.obtained producer buffer) store)
  | releasing {buffer : Buffer} {store : Store} :
      Occurs linked earlier (Mark.at (.releasing buffer) store)
  | closing {buffer : Buffer} {store : Store} : buffer.owner = .hostOwned →
      Allocated buffer earlier → Occurs linked earlier (Mark.at (.closing buffer) store)

/-- A buffer that is handed out lies inside memory. It is fresh from the allocator, or a buffer that the
host owns only if the allocator has given it before. -/
theorem Occurs.obtained {linked : Linked} {earlier : List Moment} {moment : Moment}
    {producer : Producer} {buffer : Buffer} (occurs : Occurs linked earlier moment)
    (same : moment.event = .marked (.obtained producer buffer)) :
    buffer.Inside moment.after ∧
      ((∃ pointer length, producer = .allocate length ∧ pointer ≠ 0 ∧ length ≠ 0 ∧
          buffer = ⟨⟨pointer, length⟩, .hostOwned⟩) ∨
        (∀ length, producer ≠ .allocate length) ∧
          (buffer.owner = .hostOwned → Allocated buffer earlier)) := by
  -- Only two kinds of moment hand a buffer out, and they say so themselves.
  cases occurs with
  | allocates nonzero positive inside =>
    cases same
    exact ⟨inside, .inl ⟨_, _, rfl, nonzero, positive, rfl⟩⟩
  | obtains other inside allocated =>
    cases same
    exact ⟨inside, .inr ⟨other, allocated⟩⟩
  | _ => cases same

/-- Moments that follow each other from a store to another, after other moments. -/
inductive Timeline (linked : Linked) : List Moment → Store → List Moment → Store → Prop
  | none {earlier : List Moment} {store : Store} : Timeline linked earlier store [] store
  | more {earlier moments : List Moment} {moment : Moment} {last : Store} :
      Occurs linked earlier moment →
      Timeline linked (earlier ++ [moment]) moment.after moments last →
      Timeline linked earlier moment.before (moment :: moments) last

namespace Timeline

variable {linked : Linked} {earlier first second : List Moment} {store middle last : Store}

/-- One moment makes a timeline. -/
theorem single {moment : Moment} (occurs : Occurs linked earlier moment) :
    Timeline linked earlier moment.before [moment] moment.after :=
  .more occurs .none

/-- A timeline goes on where another one ends. -/
theorem append (start : Timeline linked earlier store first middle)
    (rest : Timeline linked (earlier ++ first) middle second last) :
    Timeline linked earlier store (first ++ second) last := by
  -- Each moment of the first part becomes one of those before the rest.
  induction start with
  | none => simpa using rest
  | more occurs _ ih => exact .more occurs (ih (by simpa using rest))

/-- Every moment of a timeline occurs after those before it. -/
theorem occurs {moment : Moment} (timeline : Timeline linked earlier store
    (first ++ moment :: second) last) : Occurs linked (earlier ++ first) moment := by
  -- By induction on the moments before it.
  induction first generalizing earlier store with
  | nil =>
    cases timeline with
    | more occurs _ => simpa using occurs
  | cons head first ih =>
    cases timeline with
    | more _ rest => simpa using ih rest

/-- Each moment starts where the one before it has ended. -/
theorem befores {moments : List Moment} (timeline : Timeline linked earlier store moments last) :
    moments.map (·.before) = (store :: moments.map (·.after)).dropLast := by
  induction timeline with
  | none => rfl
  | more _ _ ih => rw [List.map_cons, List.map_cons, List.dropLast_cons_cons, ih]

/-- Where moments end is where the last of them leaves the store. -/
theorem last_mem {moments : List Moment} (timeline : Timeline linked earlier store moments last) :
    last ∈ store :: moments.map (·.after) := by
  induction timeline with
  | none => exact List.mem_singleton_self _
  | more _ _ ih => exact List.mem_cons_of_mem _ ih

/-- What every moment keeps holds of all stores of a timeline that starts with it. -/
theorem all {holds : Store → Prop} {moments : List Moment}
    (step : ∀ {earlier moment}, Occurs linked earlier moment →
      holds moment.before → holds moment.after)
    (timeline : Timeline linked earlier store moments last) (start : holds store) :
    ∀ point ∈ store :: moments.map (·.after), holds point := by
  induction timeline with
  | none => simpa using start
  | more occurs _ ih =>
    rw [List.forall_mem_cons]
    exact ⟨start, ih (step occurs start)⟩

/-- A relation that every moment keeps holds between any two stores of a timeline, in their order. -/
theorem pairwise {relation : Store → Store → Prop} {moments : List Moment}
    (composes : Run.Composes relation)
    (step : ∀ {earlier moment}, Occurs linked earlier moment →
      relation moment.before moment.after)
    (timeline : Timeline linked earlier store moments last) :
    (store :: moments.map (·.after)).Pairwise relation := by
  induction timeline with
  | none => exact List.pairwise_singleton _ _
  | more occurs _ ih =>
    -- What is related to the store after the first moment is related to the one before it.
    have first := step occurs
    obtain ⟨after, _⟩ := List.pairwise_cons.mp ih
    refine List.pairwise_cons.mpr ⟨fun point later => ?_, ih⟩
    rcases List.mem_cons.mp later with rfl | later
    · exact first
    · exact composes.trans first (after point later)

end Timeline

/-- Moments tell how a computation goes on from a store: they lead to the store that it leaves, if it
comes to an end. -/
def Told {α : Type} (linked : Linked) (earlier : List Moment) (store : Store)
    (moments : List Moment) (result : Option (α × Store)) : Prop :=
  ∃ last, Timeline linked earlier store moments last ∧
    ∀ outcome left, result = some (outcome, left) → left = last

section

variable {α β ε : Type} {linked : Linked} {earlier : List Moment} {store : Store}

/-- A computation that changes nothing needs no moments. -/
theorem told_still {result : Option (α × Store)}
    (still : ∀ outcome left, result = some (outcome, left) → left = store) :
    Told linked earlier store [] result :=
  ⟨store, .none, still⟩

/-- A computation that is one moment. -/
theorem told_moment (moment : Moment) {result : Option (α × Store)}
    (occurs : Occurs linked earlier moment)
    (ends : ∀ outcome left, result = some (outcome, left) → left = moment.after) :
    Told linked earlier moment.before [moment] result :=
  ⟨moment.after, .single occurs, ends⟩

/-- A moment before a computation. -/
theorem Told.cons (moment : Moment) {moments : List Moment} {result : Option (α × Store)}
    (occurs : Occurs linked earlier moment)
    (told : Told linked (earlier ++ [moment]) moment.after moments result) :
    Told linked earlier moment.before (moment :: moments) result := by
  obtain ⟨last, timeline, ends⟩ := told
  exact ⟨last, .more occurs timeline, ends⟩

/-- What tells of a computation tells of another one that leaves the same store. -/
theorem Told.imp {moments : List Moment} {result : Option (α × Store)}
    {other : Option (β × Store)} (told : Told linked earlier store moments result)
    (same : ∀ outcome left, other = some (outcome, left) →
      ∃ outcome, result = some (outcome, left)) :
    Told linked earlier store moments other := by
  obtain ⟨last, timeline, ends⟩ := told
  refine ⟨last, timeline, fun outcome left ended => ?_⟩
  obtain ⟨outcome, ended⟩ := same outcome left ended
  exact ends outcome left ended

/-- The moment of a run that is a single event, however it ends. -/
def Run.moments (event : Happening) (run : Run α) (store : Store) : List Moment :=
  match run store with
  | none => []
  | some (_, left) => [⟨event, store, left⟩]

theorem told_run {event : Happening} {run : Run α}
    (occurs : ∀ outcome left, run store = some (outcome, left) →
      Occurs linked earlier ⟨event, store, left⟩) :
    Told linked earlier store (run.moments event store) (run store) := by
  -- A computation without an end has no moment either.
  unfold Run.moments
  cases ran : run store with
  | none => exact told_still nofun
  | some ended =>
    refine told_moment _ (occurs ended.1 ended.2 ran) ?_
    rintro outcome left ⟨⟩
    rfl

/-- A computation that goes on is told as its first part and then its second one. -/
theorem Told.seq {moments rest : List Moment} {first : Option (α × Store)}
    {result : Option (β × Store)} (told : Told linked earlier store moments first)
    (endless : first = none → rest = [] ∧ result = none)
    (goesOn : ∀ value left, first = some (value, left) →
      Told linked (earlier ++ moments) left rest result) :
    Told linked earlier store (moments ++ rest) result := by
  -- The second part starts at the very store that the first one led to.
  obtain ⟨middle, timeline, ends⟩ := told
  cases first with
  | none =>
    obtain ⟨rfl, rfl⟩ := endless rfl
    exact ⟨middle, by simpa using timeline, nofun⟩
  | some ended =>
    obtain rfl := ends ended.1 ended.2 rfl
    obtain ⟨last, rest, ended⟩ := goesOn _ _ rfl
    exact ⟨last, timeline.append rest, ended⟩

/-- What is told after a computation that gives a value; after any other there is nothing to tell. -/
def following (result : Option (Except ε α × Store)) (rest : α → Store → List Moment) :
    List Moment :=
  match result with
  | some (.ok value, left) => rest value left
  | _ => []

/-- A run in two parts is told as its parts are. -/
theorem told_bind {run : Run α} {next : α → Run β} {moments : List Moment}
    {rest : α → Store → List Moment} (first : Told linked earlier store moments (run store))
    (goesOn : ∀ value left, run store = some (.ok value, left) →
      Told linked (earlier ++ moments) left (rest value left) (next value left)) :
    Told linked earlier store (moments ++ following (run store) rest) ((run >>= next) store) := by
  -- A failure of the first part is one of the whole, and leaves the same store.
  rw [Run.bind_apply]
  refine first.seq (fun endless => by rw [endless]; exact ⟨rfl, rfl⟩) fun outcome left ended => ?_
  rw [ended]
  cases outcome with
  | ok value => exact goesOn value left ended
  | error failure =>
    refine told_still ?_
    rintro outcome last ⟨⟩
    rfl

/-- A run that changes nothing more at its end is told as it is without that end. -/
theorem told_last {run : Run α} {next : α → Run β} {moments : List Moment}
    (told : Told linked earlier store moments (run store))
    (still : ∀ value left outcome last, next value left = some (outcome, last) → last = left) :
    Told linked earlier store moments ((run >>= next) store) := by
  -- Both runs leave the same store, whether the first one fails or gives a value.
  refine told.imp fun outcome left ended => ?_
  rw [Run.bind_apply] at ended
  split at ended
  · cases ended
  · rename_i value middle done
    rw [still value middle outcome left ended]
    exact ⟨_, done⟩
  · rename_i failure middle failed
    cases ended
    exact ⟨_, failed⟩

theorem told_map {run : Run α} {moments : List Moment}
    (told : Told linked earlier store moments (run store)) (f : α → β) :
    Told linked earlier store moments ((do return f (← run) : Run β) store) := by
  refine told_last told ?_
  rintro value left outcome last ⟨⟩
  rfl

theorem told_pure (value : α) : Told linked earlier store [] ((pure value : Run α) store) := by
  refine told_still ?_
  rintro outcome left ⟨⟩
  rfl

theorem told_trap (cause : Trap) :
    Told linked earlier store [] ((Run.trap cause : Run α) store) := by
  refine told_still ?_
  rintro outcome left ⟨⟩
  rfl

end

end GuestBoundary
