import GuestBoundary.Proofs.Conversation
import GuestBoundary.Proofs.HostFunctions
import GuestBoundary.Proofs.Wasm.Agreement

/-! The two spellings: a capability that reports a status does what its plain counterpart does, so the two
differ in the name that a line of the log carries and in the status, which only a success reports. -/

namespace GuestBoundary

open Program

/-- Two stores are what one store was before two functions recorded a text, each under its own name. Both
have recorded it, or neither has. -/
inductive Recorded (store : Store) (text first second : String) : Store → Store → Prop
  | neither : Recorded store text first second store store
  | both :
      Recorded store text first second
        { store with log := { store.log with lines := store.log.lines.push ⟨first, text⟩ } }
        { store with log := { store.log with lines := store.log.lines.push ⟨second, text⟩ } }

/-- A text that is offered to a log under two names is recorded under both or under neither. -/
theorem recorded_add (store : Store) (text first second : String) :
    Recorded store text first second { store with log := store.log.add ⟨first, text⟩ }
      { store with log := store.log.add ⟨second, text⟩ } := by
  -- Whether a line is recorded does not depend on the line.
  unfold GuestLog.add
  split
  · exact .both
  · exact .neither

/-- Two answers to a success: the one is no value, and the other is the status of success. -/
def ReportsSuccess (nothing reported : List Value) : Prop := nothing = [] ∧ reported = [.i32 0]

section

variable {ε σ α β : Type} {values : α → β → Prop} {states : σ → σ → Prop}

/-- Every computation ends as itself does. -/
theorem ends_self (ended : Option (Except ε α × σ)) : Ends Eq (fun _ _ => True) Eq ended ended := by
  rcases ended with _ | ⟨failure | value, left⟩
  · exact .endless
  · exact .failure rfl rfl
  · exact .value trivial rfl

/-- What ends like a first computation that gives a value gives one that is related to it. -/
theorem Ends.of_first {first : α} {left : σ} {ended : Option (Except ε β × σ)}
    (alike : Ends Eq values states (some (.ok first, left)) ended) :
    ∃ second other, ended = some (.ok second, other) ∧ values first second ∧ states left other := by
  cases alike with
  | value related leaves => exact ⟨_, _, rfl, related, leaves⟩

theorem Ends.of_second {second : β} {other : σ} {ended : Option (Except ε α × σ)}
    (alike : Ends Eq values states ended (some (.ok second, other))) :
    ∃ first left, ended = some (.ok first, left) ∧ values first second ∧ states left other := by
  cases alike with
  | value related leaves => exact ⟨_, _, rfl, related, leaves⟩

end

/-- The arguments that are a span are that span. -/
theorem Capability.spanOf_pair (span : Span) : spanOf span.pair = span := by
  simp [spanOf, words, Span.pair, Value.low, Value.bits]

namespace Context

/-- A text that is read is offered to the log, under the name of the host function. -/
theorem perform_logText (context : Context) (span : Span) (store : Store) :
    context.perform (Capability.logText span) store =
      match context.perform (readString span) store with
      | none => none
      | some (.ok text, left) => some (.ok (), { left with log := left.log.add ⟨context.self, text⟩ })
      | some (.error fault, left) => some (.error fault, left) := by
  rw [Capability.logText, perform_bind]
  rcases context.perform (readString span) store with _ | ⟨fault | text, left⟩ <;> rfl

/-- A text is logged under two names alike: it is read from memory first, and that is all that can fail. -/
theorem logText_ends (context : Context) (span : Span) (store : Store) (first second : String) :
    Ends Eq (fun _ _ => True)
      (Recorded store (Utf8.decode (store.memory.bytesAt span.pointer.toNat span.length.toNat))
        first second)
      (({ context with self := first } : Context).perform (Capability.logText span) store)
      (({ context with self := second } : Context).perform (Capability.logText span) store) := by
  -- Reading is the same under every name.
  have reads (self : String) : ({ context with self } : Context).perform (Capability.logText span) store =
      match context.perform (readString span) store with
      | none => none
      | some (.ok text, left) => some (.ok (), { left with log := left.log.add ⟨self, text⟩ })
      | some (.error fault, left) => some (.error fault, left) := by
    rw [perform_logText, perform_self (asks_readString span)]
  rw [reads, reads]
  -- Where it fails, there is nothing to offer to the log.
  by_cases sees : context.SeesMemory
  · rw [perform_readString sees]
    by_cases inside : span.pointer.toNat + span.length.toNat ≤ store.memory.size
    · rw [Region.read_inside inside]
      exact .value trivial (recorded_add store _ first second)
    · rw [Region.read_outside (Nat.lt_of_not_le inside)]
      exact .failure rfl .neither
  · have blind : context.perform (readString span) store = some (.error (.invalidModule
        (.memoryMissing context.linked.conventions.memoryExport)), store) := by
      rw [readString, readBytes, perform_bind, perform_bind, perform_resolve_blind sees]
    rw [blind]
    exact .failure rfl .neither

end Context

namespace Linked

variable {linked : Linked} {patience depth : Nat} {id : String}

/-- A host function that works and then answers a fixed list ends as its work does. -/
theorem call_answer {α : Type} {host : HostFunction} (bound : linked.hosts.lookup id = some host)
    {arguments answer : List Value} {work : Program α}
    (body : host.body arguments = work >>= fun _ => pure answer)
    (accepted : host.signature.acceptsResults answer = true) (caller : Caller) (store : Store) :
    linked.call patience (depth + 1) caller id arguments store =
      match (linked.hostContext patience depth caller host).perform work store with
      | none => none
      | some (.ok _, left) => some (.ok answer, left)
      | some (.error fault, left) => some (.error (.raised fault), left) := by
  rw [call_host bound, HostFunction.run_answer body accepted]
  change Run.carry ((linked.hostContext patience depth caller host).perform _) store = _
  rw [Run.carry, Context.perform_bind]
  rcases (linked.hostContext patience depth caller host).perform work store with
    _ | ⟨fault | value, left⟩
  · rfl
  · rfl
  · rfl

/-- Code that calls a host function goes on with what the function answers, and fails as it does. -/
theorem executeAll_call {host : HostFunction} (bound : linked.hosts.lookup id = some host)
    {arguments : List Value} (typed : arguments.map Value.type = host.signature.params)
    (rest : List Wasm.Instruction) (stack locals : List Value) (store : Store) :
    Wasm.executeAll (linked.surroundings patience depth) (.call id :: rest)
        ⟨arguments.reverse ++ stack, locals⟩ store =
      match linked.call patience depth .guest id arguments store with
      | none => none
      | some (.ok results, left) =>
        Wasm.executeAll (linked.surroundings patience depth) rest ⟨results.reverse ++ stack, locals⟩ left
      | some (.error failure, left) => some (.error failure, left) := by
  -- The function is found by its name, and its operands are what is on top of the stack.
  have found : (linked.surroundings patience depth).callable? id =
      some ⟨host.signature.params, linked.call patience depth .guest id⟩ := by
    simp only [surroundings, callable?, bound]
  have taken : Wasm.takeOperands host.signature.params (arguments.reverse ++ stack) =
      some (arguments, stack) := Wasm.takeOperands_eq_some_iff.mpr ⟨rfl, typed⟩
  rw [Wasm.executeAll, Run.bind_apply, Wasm.execute, Run.bind_apply, Wasm.callFunction]
  simp only [found, taken, Run.bind_apply]
  rcases linked.call patience depth .guest id arguments store with _ | ⟨failure | results, left⟩
  · rfl
  · rfl
  · rfl

/-- The one of two host functions answers nothing where the other answers the status of success, and what
they leave is related, whoever calls them with arguments from a store on. -/
structure Corresponds (linked : Linked) (patience depth : Nat) (states : Store → Store → Prop)
    (plain status : String) (arguments : List Value) (store : Store) : Prop where
  /-- Neither has an end, or both fail for the same reason, or both succeed. -/
  ends :
    ∀ caller, Ends Eq ReportsSuccess states
      (linked.call patience depth caller plain arguments store)
      (linked.call patience depth caller status arguments store)
  /-- After a success of the one, code of the guest goes on without a value. -/
  goesOn :
    ∀ values left, linked.call patience depth .guest plain arguments store = some (.ok values, left) →
      ∀ rest stack locals, Wasm.executeAll (linked.surroundings patience depth) (.call plain :: rest)
          ⟨arguments.reverse ++ stack, locals⟩ store =
        Wasm.executeAll (linked.surroundings patience depth) rest ⟨stack, locals⟩ left
  /-- After a success of the other, it goes on with the status. -/
  reports :
    ∀ values left, linked.call patience depth .guest status arguments store = some (.ok values, left) →
      ∀ rest stack locals, Wasm.executeAll (linked.surroundings patience depth) (.call status :: rest)
          ⟨arguments.reverse ++ stack, locals⟩ store =
        Wasm.executeAll (linked.surroundings patience depth) rest ⟨.i32 0 :: stack, locals⟩ left
  /-- A failure of either ends it, before anything could see a status. -/
  stops :
    ∀ id ∈ [plain, status], ∀ failure left,
      linked.call patience depth .guest id arguments store = some (.error failure, left) →
      ∀ rest stack locals, Wasm.executeAll (linked.surroundings patience depth) (.call id :: rest)
          ⟨arguments.reverse ++ stack, locals⟩ store = some (.error failure, left)

section

variable {linked : Linked} {patience depth : Nat} {plain status : String} {store : Store}
  {states : Store → Store → Prop} {arguments : List Value}

/-- Two host functions whose ends are related correspond, for arguments of the types that both take. -/
theorem corresponds_of_ends {first second : HostFunction}
    (one : linked.hosts.lookup plain = some first) (other : linked.hosts.lookup status = some second)
    (typed : arguments.map Value.type = first.signature.params)
    (same : first.signature.params = second.signature.params)
    (ends : ∀ caller, Ends Eq ReportsSuccess states
      (linked.call patience depth caller plain arguments store)
      (linked.call patience depth caller status arguments store)) :
    linked.Corresponds patience depth states plain status arguments store := by
  refine ⟨ends, fun values left called rest stack locals => ?_,
    fun values left called rest stack locals => ?_, ?_⟩
  · -- The plain one has succeeded beside the other, and so it has answered nothing.
    have alike := ends .guest
    rw [called] at alike
    obtain ⟨_, _, _, ⟨rfl, _⟩, _⟩ := alike.of_first
    rw [executeAll_call one typed, called]
    rfl
  · have alike := ends .guest
    rw [called] at alike
    obtain ⟨_, _, _, ⟨_, rfl⟩, _⟩ := alike.of_second
    rw [executeAll_call other (typed.trans same), called]
    rfl
  · intro id either failure left called rest stack locals
    rcases List.mem_pair.mp either with rfl | rfl
    · rw [executeAll_call one typed, called]
    · rw [executeAll_call other (typed.trans same), called]

/-- Two host functions that do the same work, and then answer nothing and the status of success, have ends
that are related as those of the work are. -/
theorem ends_answer {α : Type} {first second : HostFunction} {work : Program α}
    (one : linked.hosts.lookup plain = some first) (other : linked.hosts.lookup status = some second)
    (bodies : first.body arguments = (work >>= fun _ => pure []) ∧
      second.body arguments = work >>= fun _ => pure Capability.statusOk)
    (accepted : first.signature.acceptsResults [] = true ∧
      second.signature.acceptsResults Capability.statusOk = true)
    (unchanged : states store store) (caller : Caller)
    (works : ∀ level, Ends Eq (fun _ _ => True) states
      ((linked.hostContext patience level caller first).perform work store)
      ((linked.hostContext patience level caller second).perform work store)) :
    Ends Eq ReportsSuccess states
      (linked.call patience depth caller plain arguments store)
      (linked.call patience depth caller status arguments store) := by
  cases depth with
  | zero =>
    -- Without a level left, a call fails in the same way whatever it is of.
    exact .failure rfl unchanged
  | succ depth =>
    rw [call_answer one bodies.1 accepted.1, call_answer other bodies.2 accepted.2]
    -- What the work comes to is only given another form, and in each form the same.
    have alike := works depth
    generalize (linked.hostContext patience depth caller first).perform work store = here at alike ⊢
    generalize (linked.hostContext patience depth caller second).perform work store = there at alike ⊢
    cases alike with
    | endless => exact .endless
    | value _ related => exact .value ⟨rfl, rfl⟩ related
    | failure same related => exact .failure (congrArg Failure.raised same) related

/-- A conversation is the same under both names. -/
theorem talk_ends {respond : String → String} {space other : String}
    (one : linked.hosts.lookup plain = some (Capability.talkPlain respond space))
    (two : linked.hosts.lookup status = some (Capability.talkStatus respond other)) (caller : Caller) :
    Ends Eq ReportsSuccess Eq
      (linked.call patience depth caller plain arguments store)
      (linked.call patience depth caller status arguments store) := by
  refine ends_answer one two ⟨rfl, rfl⟩ ⟨rfl, rfl⟩ rfl caller fun level => ?_
  -- The work of both never asks for the name that it runs under.
  have same := (@Context.perform_self _
    (linked.hostContext patience level caller (Capability.talkPlain respond space)) _
    (Capability.asks_talk respond (Capability.spanOf arguments) (Capability.words arguments 2)
      (Capability.words arguments 3)) "hostTalk" store).symm
  exact same ▸ ends_self _

/-- A text is logged in the same way under both names, up to the name. -/
theorem logString_ends {space other : String}
    (one : linked.hosts.lookup plain = some (Capability.logString space))
    (two : linked.hosts.lookup status = some (Capability.printString other)) (span : Span)
    (caller : Caller) :
    Ends Eq ReportsSuccess
      (Recorded store (Utf8.decode (store.memory.bytesAt span.pointer.toNat span.length.toNat))
        "host_log_string" "hostPrintString")
      (linked.call patience depth caller plain span.pair store)
      (linked.call patience depth caller status span.pair store) := by
  refine ends_answer one two ⟨rfl, rfl⟩ ⟨rfl, rfl⟩ .neither caller fun level => ?_
  rw [Capability.spanOf_pair]
  -- Where the two run is one context under two names.
  exact (linked.context patience level (caller == .guest) "").logText_ends span store
    "host_log_string" "hostPrintString"

end

end Linked

/--
The two spellings of a capability come to the same, but for the status and the name in the log.

On any linked guest, on any store, for any span, any two slots and any responder, a conversation under the
name that reports a status ends as the plain one does: it has no end, or fails for the same reason, or
succeeds, and leaves the same store. The two ways to log a text also end alike, and leave the same store up
to the name on the one line that both have recorded or neither has. The plain ones answer nothing and the
others the status of success, with which code of the guest goes on; a failure ends that code before it could
see a status.
-/
theorem Linked.spellings_correspond (linked : Linked) (patience depth : Nat) (plain status : String)
    (span : Span) (store : Store) :
    (∀ (respond : String → String) (space other : String) (pointerSlot lengthSlot : UInt32),
      linked.hosts.lookup plain = some (Capability.talkPlain respond space) →
      linked.hosts.lookup status = some (Capability.talkStatus respond other) →
      linked.Corresponds patience depth Eq plain status
        (span.pair ++ [.i32 pointerSlot, .i32 lengthSlot]) store) ∧
    ∀ space other : String,
      linked.hosts.lookup plain = some (Capability.logString space) →
      linked.hosts.lookup status = some (Capability.printString other) →
      linked.Corresponds patience depth
        (Recorded store (Utf8.decode
          (store.memory.bytesAt span.pointer.toNat span.length.toNat))
          "host_log_string" "hostPrintString")
        plain status span.pair store := by
  constructor
  · intro respond space other pointerSlot lengthSlot one two
    exact corresponds_of_ends one two rfl rfl (talk_ends one two)
  · intro space other one two
    exact corresponds_of_ends one two rfl rfl (logString_ends one two span)

namespace Sample

/-- The small guest, with a capability of each kind in both spellings. -/
def bilingual : Wasm.Module :=
  { guest with
    imports := [⟨"env", "host_talk", .function "talk" (Signature.words 4 0).funcType⟩,
      ⟨"env", "hostTalk", .function "talkStatus" (Signature.words 4 1).funcType⟩,
      ⟨"env", "host_log_string", .function "say" (Signature.words 2 0).funcType⟩,
      ⟨"env", "hostPrintString", .function "print" (Signature.words 2 1).funcType⟩]
    functions := [allocator, deallocator]
    exports := [⟨"memory", .memory 0⟩, ⟨"malloc", .function "bump"⟩, ⟨"free", .function "wipe"⟩] }

/-- The guest with the capabilities bound as they are by default. -/
def bound : Linked :=
  ⟨bilingual,
    [("talk", Capability.talkPlain Uppercase.ofText "env"),
      ("talkStatus", Capability.talkStatus Uppercase.ofText "env"),
      ("say", Capability.logString "env"), ("print", Capability.printString "env")],
    .default, 1, 256⟩

/-- Its store with two letters in memory. -/
def lettered : Store :=
  let store := Instance.initialStore .default bound
  { store with memory := store.memory.store 16 [104, 105] }

end Sample

/-- Two letters are answered and logged alike under both names, and the log tells which name it was. -/
theorem Linked.spellings_correspond_bilingual :
    Linked.link .default (Capability.registry "env") Sample.bilingual = .ok Sample.bound ∧
    Sample.bound.Corresponds 16 16 Eq "talk" "talkStatus" [.i32 16, .i32 2, .i32 0, .i32 4]
      Sample.lettered ∧
    Sample.bound.Corresponds 16 16 (Recorded Sample.lettered "hi" "host_log_string" "hostPrintString")
      "say" "print" [.i32 16, .i32 2] Sample.lettered ∧
    ∃ left other,
      Sample.bound.call 16 16 .guest "say" [.i32 16, .i32 2] Sample.lettered = some (.ok [], left) ∧
      Sample.bound.call 16 16 .guest "print" [.i32 16, .i32 2] Sample.lettered =
        some (.ok [.i32 0], other) ∧
      left.log.lines = #[⟨"host_log_string", "hi"⟩] ∧
      other.log.lines = #[⟨"hostPrintString", "hi"⟩] := by
  obtain ⟨talks, -⟩ :=
    Linked.spellings_correspond Sample.bound 16 16 "talk" "talkStatus" ⟨16, 2⟩ Sample.lettered
  refine ⟨rfl, talks Uppercase.ofText "env" "env" 0 4 rfl rfl, ?_, _, _, rfl, rfl, rfl, rfl⟩
  exact (Linked.spellings_correspond Sample.bound 16 16 "say" "print" ⟨16, 2⟩ Sample.lettered).2
    "env" "env" rfl rfl

end GuestBoundary
