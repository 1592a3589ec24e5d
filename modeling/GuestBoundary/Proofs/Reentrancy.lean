import GuestBoundary.Proofs.Programs
import GuestBoundary.Proofs.Sample
import GuestBoundary.Proofs.Wasm.Reach

/-! Failures through re-entrant calls: what ends the innermost frame is what the outermost operation
reports, however often host and guest alternate between them. -/

namespace GuestBoundary

variable {α β : Type}

namespace Context

/-- A program with a store comes to another with its own, by the replies to what it asks. -/
inductive Reaches (context : Context) : Program α → Store → Program α → Store → Prop
  | here {program : Program α} {store : Store} : Reaches context program store program store
  | asked {request : Request} {resume : request.Reply → Program α} {reply : request.Reply}
      {reached : Program α} {store answered left : Store} :
      context.answer request store = some (reply, answered) →
      Reaches context (resume reply) answered reached left →
      Reaches context (.ask request resume) store reached left

variable {context : Context}

/-- A program ends as the one that it comes to. -/
theorem Reaches.perform {program reached : Program α} {store left : Store}
    (reaches : Reaches context program store reached left) :
    context.perform program store = context.perform reached left := by
  -- Each reply was the one that performing the program gets.
  induction reaches with
  | here => rfl
  | asked answered _ ih =>
    rw [Context.perform, answered]
    exact ih

/-- What follows a program does not change where the program comes to. -/
theorem Reaches.bind {program reached : Program α} {store left : Store}
    (reaches : Reaches context program store reached left) (next : α → Program β) :
    Reaches context (program >>= next) store (reached >>= next) left := by
  -- The sequence asks what its first part asks, until that part ends.
  induction reaches with
  | here => exact .here
  | asked answered _ ih => exact .asked answered ih

/-- An invoked function fails with the fault that its failure is for the host. -/
theorem invoke_error {name entry : String} {arguments coerced : List Value} {store left : Store}
    {failure : Failure} (prepared : context.prepare name arguments = .ok (entry, coerced))
    (failed : context.call entry coerced store = some (.error failure, left)) :
    context.invoke name arguments store = some (.error failure.fault, left) := by
  -- All checks have passed, so the call is what its function does.
  simp only [invoke, prepared, Run.surface, failed]
  rfl

/-- A program that comes to a call and propagates its fault ends as the call does. -/
theorem Reaches.propagates {program : Program α} {name : String} {arguments : List Value}
    {resume : Except Fault (List Value) → Program α} {store reached left : Store} {fault : Fault}
    (reaches : Reaches context program store (.ask (.invoke name arguments) resume) reached)
    (failed : context.invoke name arguments reached = some (.error fault, left))
    (propagates : resume (.error fault) = .fail fault) :
    context.perform program store = some (.error fault, left) := by
  -- The reply to the call is its fault, with which the program ends at once.
  rw [reaches.perform, Context.perform, answer, failed]
  simp only [propagates, perform_fail]

end Context

namespace Linked

/-- A function of the guest, entered with arguments, comes to an instruction. -/
inductive Enters (linked : Linked) (patience depth : Nat) (id : String) (arguments : List Value)
    (store : Store) : Wasm.Instruction → Wasm.Frame → Store → Prop
  | body {function : Wasm.Function} {instruction : Wasm.Instruction} {frame : Wasm.Frame}
      {charged left : Store} :
      linked.hosts.lookup id = none → linked.guest.function? id = some function →
      Run.charge store = some (.ok (), charged) →
      Wasm.Comes (linked.surroundings patience depth) function.body
        ⟨[], arguments ++ function.locals.map (·.value 0)⟩ charged instruction frame left →
      Enters linked patience depth id arguments store instruction frame left

/--
A chain of active calls, from the call of a function down to the frame that fails first.

The chain gives the fault of that innermost frame and the store as it stands there. It ends in a host
function that raises a fault, in guest code that traps, or where the meter or the stack ends. Above
that it goes through guest functions that call and through host functions that invoke an export and
propagate the fault of it.
-/
inductive Chain (linked : Linked) (patience : Nat) :
    Nat → Caller → String → List Value → Store → Fault → Store → Prop
  | raised {depth : Nat} {caller : Caller} {id : String} {host : HostFunction}
      {arguments : List Value} {store left : Store} {fault : Fault} :
      linked.hosts.lookup id = some host →
      (linked.context patience depth (caller == .guest) host.name).Reaches (host.run arguments)
        store (.fail fault) left →
      Chain linked patience (depth + 1) caller id arguments store fault left
  | trapped {depth : Nat} {caller : Caller} {id : String} {arguments : List Value}
      {instruction : Wasm.Instruction} {frame : Wasm.Frame} {store left stopped : Store}
      {cause : Trap} :
      Enters linked patience depth id arguments store instruction frame left →
      instruction.plain = true →
      Wasm.execute (linked.surroundings patience depth) instruction frame left =
        some (.error (.trap cause), stopped) →
      Chain linked patience (depth + 1) caller id arguments store (.guestTrapped cause) left
  | exhausted {caller : Caller} {id : String} {arguments : List Value} {store : Store} :
      Chain linked patience 0 caller id arguments store (.guestTrapped .stackExhausted) store
  | starved {depth : Nat} {caller : Caller} {id : String} {function : Wasm.Function}
      {arguments : List Value} {store : Store} :
      linked.hosts.lookup id = none → linked.guest.function? id = some function →
      store.fuel = some 0 →
      Chain linked patience (depth + 1) caller id arguments store .fuelExhausted store
  | starvedLoop {depth rounds : Nat} {caller : Caller} {id : String} {arguments locals : List Value}
      {body : List Wasm.Instruction} {frame : Wasm.Frame} {store reached left : Store} :
      Enters linked patience depth id arguments store (.loop body) frame reached →
      Wasm.Rounds (Wasm.loopBody (linked.surroundings patience depth) body) rounds frame.locals
        reached locals left →
      rounds < patience → left.fuel = some 0 →
      Chain linked patience (depth + 1) caller id arguments store .fuelExhausted left
  | calls {depth : Nat} {caller : Caller} {id callee : String} {callable : Wasm.Callable}
      {arguments operands rest : List Value} {frame : Wasm.Frame} {store reached left : Store}
      {fault : Fault} :
      Enters linked patience depth id arguments store (.call callee) frame reached →
      (linked.surroundings patience depth).callable? callee = some callable →
      Wasm.takeOperands callable.params frame.stack = some (operands, rest) →
      Chain linked patience depth .guest callee operands reached fault left →
      Chain linked patience (depth + 1) caller id arguments store fault left
  | invokes {depth : Nat} {caller : Caller} {id entry name : String} {host : HostFunction}
      {arguments passed coerced : List Value}
      {resume : Except Fault (List Value) → Program (List Value)} {store reached left : Store}
      {fault : Fault} :
      linked.hosts.lookup id = some host →
      (linked.context patience depth (caller == .guest) host.name).Reaches (host.body arguments)
        store (.ask (.invoke name passed) resume) reached →
      (linked.context patience depth (caller == .guest) host.name).prepare name passed =
        .ok (entry, coerced) →
      Chain linked patience depth .host entry coerced reached fault left →
      resume (.error fault) = .fail fault →
      Chain linked patience (depth + 1) caller id arguments store fault left

variable {linked : Linked} {patience depth : Nat}

/-- A call fails as the instruction that its function comes to does. -/
theorem Enters.fails {id : String} {arguments : List Value} {instruction : Wasm.Instruction}
    {frame : Wasm.Frame} {store reached left : Store} {failure : Failure}
    (enters : Enters linked patience depth id arguments store instruction frame reached)
    (failed : Wasm.execute (linked.surroundings patience depth) instruction frame reached =
      some (.error failure, left)) (caller : Caller) :
    linked.call patience (depth + 1) caller id arguments store = some (.error failure, left) := by
  -- Its results are only looked at if its body ends with control.
  obtain ⟨own, defined, charging, comes⟩ := enters
  rw [call_function own defined, Wasm.Function.run]
  exact (Run.bind_ok charging).trans (Run.bind_error (comes.fails failed))

/-- What a chain ends with is what its outermost call fails with, and nothing runs in between. -/
theorem Chain.fails {caller : Caller} {id : String} {arguments : List Value} {store left : Store}
    {fault : Fault} (chain : Chain linked patience depth caller id arguments store fault left) :
    ∃ failure, linked.call patience depth caller id arguments store =
      some (.error failure, left) ∧ failure.fault = fault := by
  -- By induction on the chain: every frame passes on the failure of the frame below it.
  induction chain with
  | @raised depth caller id host arguments store left fault bound reaches =>
    -- The engine carries the fault out of the host function as it is.
    refine ⟨.raised fault, ?_, rfl⟩
    rw [call_host bound, Run.carry, reaches.perform]
    rfl
  | trapped enters plain failed =>
    -- The trapping instruction has changed nothing.
    obtain ⟨rfl, _⟩ := Wasm.trapsInPlace_execute plain _ _ _ _ failed
    exact ⟨_, enters.fails failed _, rfl⟩
  | exhausted => exact ⟨.trap .stackExhausted, rfl, rfl⟩
  | starved own defined empty =>
    -- Entering the function is what the meter does not allow.
    refine ⟨.outOfFuel, ?_, rfl⟩
    rw [call_function own defined, Wasm.Function.run]
    refine Run.bind_error ?_
    rw [Run.charge_apply, empty]
  | starvedLoop enters done patient empty =>
    exact ⟨.outOfFuel, enters.fails (Wasm.execute_loop_starved done patient empty) _, rfl⟩
  | calls enters found taken _ ih =>
    -- Guest code around a call that fails fails in the same way.
    obtain ⟨failure, failed, same⟩ := ih
    refine ⟨failure, enters.fails (Wasm.execute_call_error found taken ?_) _, same⟩
    rw [callable?_run found]
    exact failed
  | @invokes depth caller id entry name host arguments passed coerced resume store reached left fault
      bound reaches prepared _ propagates ih =>
    -- The failure becomes the fault that the host sees, and is raised again as that fault.
    obtain ⟨failure, failed, same⟩ := ih
    have invoked := Context.invoke_error prepared failed
    rw [same] at invoked
    have performed : (linked.context patience depth (caller == .guest) host.name).perform
        (host.run arguments) store = some (.error fault, left) := by
      -- The check of the results never comes, since there are none.
      refine (reaches.bind _).propagates invoked ?_
      rw [propagates]
      rfl
    refine ⟨.raised fault, ?_, rfl⟩
    rw [call_host bound, Run.carry, performed]
    rfl

end Linked

namespace Instance

/--
The fault of the innermost frame surfaces unchanged through every chain of calls.

A host program that comes to a call and propagates its fault ends with exactly the fault at the end of
the chain of that call, and an instantiation with the one of its start function. Both leave the store
as the innermost frame left it, so nothing of the frames around it has run since.
-/
theorem chain_fault_surfaces (engine : Engine) :
    (∀ (inst : Instance) (program : Program α) name arguments resume reached entry coerced fault left,
      (context engine inst.linked).Reaches program inst.store (.ask (.invoke name arguments) resume)
        reached →
      (context engine inst.linked).prepare name arguments = .ok (entry, coerced) →
      Linked.Chain inst.linked engine.patience engine.depth .host entry coerced reached fault left →
      resume (.error fault) = .fail fault →
      inst.perform engine program = some (.error fault, { inst with store := left })) ∧
    (∀ settings registry guest linked start placed fault left,
      Linked.link settings registry guest = .ok linked →
      linked.guest.start = some start →
      (linked.guest.segments.forM fun segment => Wasm.storeBytes segment.offset segment.bytes)
        (initialStore settings linked) = some (.ok (), placed) →
      Linked.Chain linked engine.patience engine.depth .guest start [] placed fault left →
      (begin engine linked).surface (initialStore settings linked) = some (.error fault, left) ∧
      create engine settings registry guest = some (.error fault)) := by
  -- Both are the chain of their one call, seen from the host that waits for its end.
  refine ⟨fun inst program name arguments resume reached entry coerced fault left reaches prepared
    chain propagates => ?_, fun settings registry guest linked start placed fault left links started
    written chain => ?_⟩
  · obtain ⟨failure, failed, rfl⟩ := chain.fails
    have invoked := Context.invoke_error prepared failed
    rw [perform, reaches.propagates invoked propagates]
  · obtain ⟨failure, failed, rfl⟩ := chain.fails
    have ended : begin engine linked (initialStore settings linked) =
        some (.error failure, left) := by
      rw [begin]
      refine (Run.bind_ok written).trans ?_
      simp only [started]
      exact Run.bind_error failed
    have surfaced : (begin engine linked).surface (initialStore settings linked) =
        some (.error failure.fault, left) := by
      rw [Run.surface, ended]
      rfl
    refine ⟨surfaced, ?_⟩
    rw [create, links]
    simp only [surfaced]

/-- A fault below two calls from guest code and one from host code surfaces, and the innermost guest
function does not even get to record that its call came back. So it does from a start function. -/
theorem chain_fault_surfaces_nested :
    (∃ left, (Sample.inst Sample.descend).perform Sample.engine (Program.invoke "relay" [.i32 1]) =
        some (.error (.engine "stop"), { Sample.inst Sample.descend with store := left }) ∧
      left.globals.lookup "back" = some (.i32 0)) ∧
    create Sample.engine .default (Sample.registry Sample.descend)
      { Sample.guest with start := some "boot" } = some (.error (.engine "stop")) := by
  -- The same frames are below the export and below the start function.
  let linked (start : Option String) : Linked :=
    { Sample.linked Sample.descend with guest := { Sample.guest with start } }
  have below (start : Option String) : Linked.Chain (linked start) 16 14 .host "relay" [.i32 0]
      (Sample.inst Sample.descend).store (.engine "stop") (Sample.inst Sample.descend).store :=
    .calls (.body rfl rfl rfl (.next rfl .here)) rfl rfl (.raised rfl .here)
  have called : Linked.Chain (linked none) 16 16 .host "relay" [.i32 1]
      (Sample.inst Sample.descend).store (.engine "stop") (Sample.inst Sample.descend).store :=
    .calls (.body rfl rfl rfl (.next rfl .here)) rfl rfl (.invokes rfl .here rfl (below none) rfl)
  have started : Linked.Chain (linked (some "boot")) 16 16 .guest "boot" []
      (Sample.inst Sample.descend).store (.engine "stop") (Sample.inst Sample.descend).store :=
    .calls (.body rfl rfl rfl (.next rfl .here)) rfl rfl
      (.invokes rfl .here rfl (below (some "boot")) rfl)
  obtain ⟨surfaces, starts⟩ := chain_fault_surfaces (α := List Value) Sample.engine
  refine ⟨⟨_, surfaces (Sample.inst Sample.descend) (Program.invoke "relay" [.i32 1]) _ _ _ _ _ _ _ _
    .here rfl called rfl, rfl⟩, ?_⟩
  exact (starts .default (Sample.registry Sample.descend) _ (linked (some "boot")) "boot" _ _ _ rfl
    rfl rfl started).2

end Instance

end GuestBoundary
