import GuestBoundary.Proofs.Arguments
import GuestBoundary.Proofs.InnerFaults
import GuestBoundary.Proofs.Reentrancy
import GuestBoundary.Proofs.Wasm.Agreement
import GuestBoundary.Proofs.Wasm.Validity

/-! Types at the boundary: what host functions are entered with, and what goes back from them to guest
code and from guest code to the host. -/

namespace GuestBoundary

/-- A list of values with the types of a list, in order and number. -/
theorem Signature.acceptsResults_iff {signature : Signature} {values : List Value} :
    signature.acceptsResults values = true ↔ values.map Value.type = signature.results := by
  rw [acceptsResults, beq_iff_eq]

namespace Linked

/-- Every function that the guest imports is declared with the type of its host function. -/
def Typed (linked : Linked) : Prop :=
  ∀ id, linked.guest.importType? id = (linked.hosts.lookup id).map (·.signature.funcType)

/-- Arguments that a function can be entered with: a host function with what it declares. -/
def Accepts (linked : Linked) (id : String) (arguments : List Value) : Prop :=
  ∀ host, linked.hosts.lookup id = some host → arguments.map Value.type = host.signature.params

variable {linked : Linked} {id : String}

/-- A function with a signature that turns out to be a host function has the signature of that. -/
theorem Typed.signature_eq (typed : linked.Typed) {signature : Signature} {host : HostFunction}
    (declared : linked.guest.type? id = some signature.funcType)
    (bound : linked.hosts.lookup id = some host) : signature = host.signature := by
  have imported := typed id
  rw [bound] at imported
  rw [Wasm.Module.type?, imported] at declared
  exact Signature.funcType_injective (Option.some.inj declared).symm

/-- A call by name that passes its checks enters its function with arguments that it accepts, and with
the bits that were passed. -/
theorem Typed.prepare_accepts {context : Context} (typed : context.linked.Typed) {name : String}
    {given passed : List Value} (prepared : context.prepare name given = .ok (id, passed)) :
    context.linked.Accepts id passed ∧ passed.map Value.bits = given.map Value.bits := by
  obtain ⟨signature, found, checked⟩ := Context.prepare_ok_iff.mp prepared
  obtain ⟨types, bits⟩ := Context.checkArguments_passed checked
  -- The arguments have the types of the export, which are those of the host function under it.
  refine ⟨fun host bound => ?_, bits⟩
  rw [types, typed.signature_eq (Context.function?_type found).2 bound]

/-- A call from guest code enters its function with arguments that it accepts. -/
theorem accepts_operands {call : String → List Value → Run (List Value)} {callable : Wasm.Callable}
    {stack operands rest : List Value} (found : linked.callable? call id = some callable)
    (taken : Wasm.takeOperands callable.params stack = some (operands, rest)) :
    linked.Accepts id operands := by
  -- For a host function, the operands are taken by its own parameters.
  intro host bound
  rw [callable?, bound] at found
  cases found
  exact (Wasm.takeOperands_eq_some_iff.mp taken).2

/--
In the course of a call, a host function is entered: with a list of values that its caller passed, it
receives a list of arguments.

The call is given by its function, by what was passed to that and what it was entered with. Either it
enters the host function itself, or it runs guest code that comes to a call with as many values on its
stack as the callee takes, or a host function that comes to a call by name.
-/
inductive Receives (linked : Linked) (patience : Nat) (host : HostFunction)
    (passed received : List Value) : Nat → Caller → String → List Value → List Value → Store → Prop
  | entered {depth : Nat} {caller : Caller} {id : String} {store : Store} :
      linked.hosts.lookup id = some host →
      Receives linked patience host passed received (depth + 1) caller id passed received store
  | calls {depth : Nat} {caller : Caller} {id callee : String} {callable : Wasm.Callable}
      {given arguments pushed below operands rest : List Value} {frame : Wasm.Frame}
      {store reached : Store} :
      Enters linked patience depth id arguments store (.call callee) frame reached →
      (linked.surroundings patience depth).callable? callee = some callable →
      frame.stack = pushed.reverse ++ below → pushed.length = callable.params.length →
      Wasm.takeOperands callable.params frame.stack = some (operands, rest) →
      Receives linked patience host passed received depth .guest callee pushed operands reached →
      Receives linked patience host passed received (depth + 1) caller id given arguments store
  | invokes {depth : Nat} {caller : Caller} {id entry name : String} {own : HostFunction}
      {given arguments values coerced : List Value}
      {resume : Except Fault (List Value) → Program (List Value)} {store reached : Store} :
      linked.hosts.lookup id = some own →
      (linked.context patience depth (caller == .guest) own.name).Reaches (own.body arguments)
        store (.ask (.invoke name values) resume) reached →
      (linked.context patience depth (caller == .guest) own.name).prepare name values =
        .ok (entry, coerced) →
      Receives linked patience host passed received depth .host entry values coerced reached →
      Receives linked patience host passed received (depth + 1) caller id given arguments store

/-- A host function receives a list of the types that it declares, with the bits that were passed. -/
theorem Receives.typed (declared : linked.Typed) {patience depth : Nat} {host : HostFunction}
    {passed received given arguments : List Value} {caller : Caller} {store : Store}
    (receives : Receives linked patience host passed received depth caller id given arguments store)
    (accepted : linked.Accepts id arguments)
    (kept : arguments.map Value.bits = given.map Value.bits) :
    received.map Value.type = host.signature.params ∧
      received.map Value.bits = passed.map Value.bits := by
  -- By induction on how the call comes there: every link hands on accepted arguments bit for bit.
  induction receives with
  | entered bound => exact ⟨accepted host bound, kept⟩
  | @calls _ _ _ _ callable _ _ pushed below operands rest _ _ _ _ found stack count taken _ ih =>
    refine ih (accepts_operands found taken) ?_
    -- What the callee takes is what is on top of the stack.
    obtain ⟨top, types⟩ := Wasm.takeOperands_eq_some_iff.mp taken
    have same : operands.reverse.length = pushed.reverse.length := by
      rw [List.length_reverse, List.length_reverse, count, ← types, List.length_map]
    have values := (List.append_inj (top.symm.trans stack) same).1
    rw [List.reverse_inj.mp values]
  | invokes _ _ prepared _ ih =>
    obtain ⟨accepts, bits⟩ := Typed.prepare_accepts declared prepared
    exact ih accepts bits

end Linked

/-- A host function that does something else with arguments that it does not declare. -/
def HostFunction.guarded (host : HostFunction) (other : List Value → Program (List Value)) :
    HostFunction :=
  { host with
    body := fun arguments =>
      if arguments.map Value.type = host.signature.params then host.body arguments
      else other arguments }

/-- With arguments that it declares, a guarded host function is the function itself. -/
theorem HostFunction.run_guarded {host : HostFunction} (other : List Value → Program (List Value))
    {arguments : List Value} (declared : arguments.map Value.type = host.signature.params) :
    (host.guarded other).run arguments = host.run arguments := by
  simp only [run, guarded, if_pos declared]
  rfl

namespace Linked

/-- The same guest with its host functions guarded. -/
def guarded (linked : Linked) (other : HostFunction → List Value → Program (List Value)) : Linked :=
  { linked with hosts := linked.hosts.map fun (id, host) => (id, host.guarded (other host)) }

variable {linked : Linked} {other : HostFunction → List Value → Program (List Value)}

theorem guarded_lookup (linked : Linked) (other : HostFunction → List Value → Program (List Value))
    (id : String) :
    (linked.guarded other).hosts.lookup id =
      (linked.hosts.lookup id).map fun host => host.guarded (other host) := by
  simp only [guarded]
  induction linked.hosts with
  | nil => rfl
  | cons entry rest ih =>
    obtain ⟨own, host⟩ := entry
    rw [List.map_cons, List.lookup_cons, List.lookup_cons, ih]
    cases id == own <;> rfl

/-- A host program does the same where the functions that it calls do the same with what they
accept. -/
theorem perform_guarded (typed : linked.Typed) {α : Type} {visible : Bool} {self : String}
    {first second : String → List Value → Run (List Value)}
    (agree : ∀ id arguments, linked.Accepts id arguments → first id arguments = second id arguments)
    (program : Program α) (store : Store) :
    Context.perform ⟨linked.guarded other, visible, self, first⟩ program store =
      Context.perform ⟨linked, visible, self, second⟩ program store := by
  -- Nothing but a call depends on the host functions, and that only on what is accepted.
  have answers (request : Request) (store : Store) :
      Context.answer ⟨linked.guarded other, visible, self, first⟩ request store =
        Context.answer ⟨linked, visible, self, second⟩ request store := by
    cases request with
    | invoke name arguments =>
      change Context.invoke _ _ _ _ = Context.invoke _ _ _ _
      have same : Context.prepare ⟨linked.guarded other, visible, self, first⟩ name arguments =
          Context.prepare ⟨linked, visible, self, second⟩ name arguments := rfl
      unfold Context.invoke
      rw [same]
      split
      · rfl
      · rename_i id passed prepared
        change (first id passed).surface store = (second id passed).surface store
        rw [agree id passed (Typed.prepare_accepts typed prepared).1]
    | _ => rfl
  -- The same replies lead the program the same way.
  induction program generalizing store with
  | done => rfl
  | fail => rfl
  | ask request resume ih =>
    simp only [Context.perform, answers]
    split
    · rfl
    · exact ih _ _

/-- Guest code finds the same functions behind the guards. -/
theorem callable?_guarded (first second : String → List Value → Run (List Value)) (id : String) :
    (linked.guarded other).callable? first id =
      (linked.callable? second id).map fun callable => ⟨callable.params, first id⟩ := by
  -- A guard keeps the signature, and the functions of the guest itself have no guard.
  unfold callable?
  rw [guarded_lookup]
  cases linked.hosts.lookup id with
  | some host => rfl
  | none =>
    have same : (linked.guarded other).guest = linked.guest := rfl
    rw [same]
    cases linked.guest.function? id with
    | none => rfl
    | some function => cases known : function.type.signature? <;> simp [known]

/-- Guest code does the same where the functions that it calls do the same with what they accept. -/
theorem surroundings_guarded {patience depth : Nat}
    (agree : ∀ id arguments, linked.Accepts id arguments →
      (linked.guarded other).call patience depth .guest id arguments =
        linked.call patience depth .guest id arguments) :
    ((linked.guarded other).surroundings patience depth).Agree
      (linked.surroundings patience depth) where
  call function frame := by
    unfold Wasm.callFunction
    have guards : ((linked.guarded other).surroundings patience depth).callable? function =
        ((linked.surroundings patience depth).callable? function).map fun callable =>
          ⟨callable.params, (linked.guarded other).call patience depth .guest function⟩ :=
      callable?_guarded _ _ function
    rw [guards]
    cases found : (linked.surroundings patience depth).callable? function with
    | none => rfl
    | some callable =>
      cases taken : Wasm.takeOperands callable.params frame.stack with
      | none => simp only [Option.map_some, taken]
      | some both =>
        -- The operands that are taken are accepted.
        obtain ⟨operands, rest⟩ := both
        simp only [Option.map_some, taken, callable?_run found,
          agree function operands (accepts_operands found taken)]
  maxPages := rfl
  patience := rfl

/-- A call does the same whatever the host functions do with arguments that they do not declare. -/
theorem call_guarded (typed : linked.Typed) (patience depth : Nat) (caller : Caller) (id : String)
    (arguments : List Value) (accepted : linked.Accepts id arguments) :
    (linked.guarded other).call patience depth caller id arguments =
      linked.call patience depth caller id arguments := by
  -- What a call runs only makes calls of a smaller depth, with arguments that are accepted.
  induction depth generalizing caller id arguments with
  | zero => rfl
  | succ depth ih =>
    have found := guarded_lookup linked other id
    cases bound : linked.hosts.lookup id with
    | some host =>
      rw [bound] at found
      rw [call_host found, call_host bound, HostFunction.run_guarded _ (accepted host bound)]
      refine congrArg Run.carry (funext fun store => ?_)
      exact perform_guarded typed (fun id arguments => ih .host id arguments) _ store
    | none =>
      rw [bound] at found
      cases defined : linked.guest.function? id with
      | none =>
        rw [call_missing bound defined, call_missing found defined]
      | some function =>
        rw [call_function bound defined, call_function found defined]
        exact Wasm.Function.run_congr (surroundings_guarded fun id arguments => ih .guest id arguments) _ _

/-- A host function that is entered gives a result list of the declared types, or a fault: one of its
own, or the one of a list that it should not have returned. -/
theorem call_host_apply {host : HostFunction} {id : String}
    (bound : linked.hosts.lookup id = some host) (patience depth : Nat) (caller : Caller)
    (arguments : List Value) (store : Store) :
    linked.call patience (depth + 1) caller id arguments store =
      match (linked.context patience depth (caller == .guest) host.name).perform
        (host.body arguments) store with
      | none => none
      | some (.error fault, left) => some (.error (.raised fault), left)
      | some (.ok values, left) =>
        if values.map Value.type = host.signature.results then some (.ok values, left)
        else some (.error (.raised (.signatureMismatch (qualified host.space host.name)
          (.resultsDiffer values host.signature))), left) := by
  rw [call_host bound, Run.carry, HostFunction.run, Context.perform_bind]
  cases (linked.context patience depth (caller == .guest) host.name).perform (host.body arguments)
      store with
  | none => rfl
  | some ended =>
    obtain ⟨fault | values, left⟩ := ended
    · rfl
    · -- The check of the results comes after everything that the function does.
      simp only [Signature.acceptsResults_iff]
      by_cases accepted : values.map Value.type = host.signature.results
      · simp only [if_pos accepted]
        rfl
      · simp only [if_neg accepted]
        rfl

/-- A call gives results of the types that its function has, imported or not. -/
theorem Typed.call_types (typed : linked.Typed) {patience depth : Nat} {caller : Caller} {id : String}
    {signature : Signature} (declared : linked.guest.type? id = some signature.funcType)
    {arguments values : List Value} {store left : Store}
    (called : linked.call patience depth caller id arguments store = some (.ok values, left)) :
    values.map Value.type = signature.results := by
  -- A call without depth left fails, so this one has entered its function.
  cases depth with
  | zero => cases called
  | succ depth =>
    cases bound : linked.hosts.lookup id with
    | some host =>
      rw [typed.signature_eq declared bound]
      rw [call_host_apply bound] at called
      split at called
      · cases called
      · cases called
      · split at called
        · rename_i accepted
          cases called
          exact accepted
        · cases called
    | none =>
      cases defined : linked.guest.function? id with
      | none =>
        rw [call_missing bound defined] at called
        cases called
      | some function =>
        rw [call_function bound defined] at called
        -- The type of the function is that of its code, since no import has its name.
        have imported := typed id
        rw [bound] at imported
        rw [Wasm.Module.type?, imported, defined] at declared
        have code : function.type = signature.funcType := Option.some.inj declared
        -- Its results have the declared types, which are the boundary types of the signature.
        have given := Wasm.Function.run_types called
        rw [code] at given
        have injective : Function.Injective Wasm.ValType.number := fun _ _ => Wasm.ValType.number.inj
        refine List.map_injective_iff.mpr injective ?_
        rw [List.map_map]
        exact given

/-- What a call by name gives has the result types of the export, in order and number. -/
theorem Typed.invoke_types (typed : linked.Typed) {patience depth : Nat} {visible : Bool}
    {self name : String} {arguments values : List Value} {store left : Store}
    (invoked : (linked.context patience depth visible self).invoke name arguments store =
      some (.ok values, left)) :
    ∃ id signature, linked.guest.exportedFunction? name = some id ∧
      linked.guest.type? id = some (Signature.funcType signature) ∧
      values.map Value.type = signature.results := by
  -- Only a call that has passed its checks can have given results.
  unfold Context.invoke at invoked
  split at invoked
  · cases invoked
  · rename_i id passed prepared
    obtain ⟨signature, found, _⟩ := Context.prepare_ok_iff.mp prepared
    obtain ⟨exported, declared⟩ := Context.function?_type found
    simp only [Run.surface] at invoked
    split at invoked
    · cases invoked
    · rename_i outcome stopped called
      cases outcome with
      | error failure => cases invoked
      | ok results =>
        cases invoked
        exact ⟨id, signature, exported, declared, typed.call_types declared called⟩

end Linked

namespace Capability

/-- The words of arguments are found among them, whatever comes after. -/
theorem words_append {arguments : List Value} {index : Nat} (inside : index < arguments.length)
    (extra : List Value) : words (arguments ++ extra) index = words arguments index := by
  -- The index lies in the first part of the list.
  have there : index < (arguments.map Value.low).length := by rwa [List.length_map]
  simp only [words, List.map_append, List.getD_eq_getElem?_getD, List.getElem?_append_left there]

/-- A standard capability reads no arguments beyond those that it declares. -/
theorem Standard.body_append {host : HostFunction} (standard : Standard host) {arguments : List Value}
    (declared : arguments.map Value.type = host.signature.params) (extra : List Value) :
    host.body (arguments ++ extra) = host.body arguments := by
  have same (count : Nat) (declares : host.signature.params.length = count) (index : Nat)
      (small : index < count) : words (arguments ++ extra) index = words arguments index := by
    refine words_append ?_ extra
    rwa [← declares, ← declared, List.length_map] at small
  -- Each of them reads as many words as it has parameters.
  cases standard with
  | logString space | printString space =>
    have same := same 2 rfl
    simp only [Capability.logString, Capability.printString, spanOf, same 0 (by decide), same 1 (by decide)]
  | logWord space =>
    have same := same 1 rfl
    simp only [Capability.logWord, same 0 (by decide)]
  | getString text space =>
    have same := same 2 rfl
    simp only [Capability.getString, same 0 (by decide), same 1 (by decide)]
  | talkPlain respond space | talkStatus respond space =>
    have same := same 4 rfl
    simp only [Capability.talkPlain, Capability.talkStatus, spanOf, same 0 (by decide), same 1 (by decide),
      same 2 (by decide), same 3 (by decide)]

end Capability

namespace Linked

/-- A linked guest begins in the same way whatever its host functions do with arguments that they do not
declare. -/
theorem begin_guarded {linked : Linked} (typed : linked.Typed) (engine : Engine)
    (starts : ∀ id, linked.guest.start = some id → linked.Accepts id [])
    (other : HostFunction → List Value → Program (List Value)) :
    Instance.begin engine (linked.guarded other) = Instance.begin engine linked := by
  -- The segments are the same, and so is the call of the start function.
  refine congrArg (Bind.bind _) (funext fun _ => ?_)
  have same : (linked.guarded other).guest = linked.guest := rfl
  rw [same]
  cases started : linked.guest.start with
  | none => rfl
  | some id =>
    dsimp only
    rw [call_guarded typed engine.patience engine.depth .guest id [] (starts id started)]

/--
Values cross the boundary with the types that were declared, and with all their bits.

For a guest that is linked, whoever calls a host function: it receives a list of the types that it
declares, with the bits that its caller passed, and what its implementation would do with any other list
makes no difference to anything that runs. A call of it goes on only with a result list of the
types that it declares; any other list is a mismatch under its namespace and name. What a call by name
gives has the result types of the export. And no standard capability reads an argument that it does not
declare.
-/
theorem boundary_typing {settings : Settings} {registry : Registry} {guest : Wasm.Module}
    {linked : Linked} (sound : guest.defect? = none)
    (links : link settings registry guest = .ok linked) (engine : Engine) :
    (∀ host passed received visible self name entry given arguments store,
      (linked.context engine.patience engine.depth visible self).prepare name given =
        .ok (entry, arguments) →
      Receives linked engine.patience host passed received engine.depth .host entry given arguments
        store →
      received.map Value.type = host.signature.params ∧
        received.map Value.bits = passed.map Value.bits) ∧
    (∀ host passed received start store, guest.start = some start →
      Receives linked engine.patience host passed received engine.depth .guest start [] [] store →
      received.map Value.type = host.signature.params ∧
        received.map Value.bits = passed.map Value.bits) ∧
    (∀ other, Instance.begin engine (linked.guarded other) = Instance.begin engine linked ∧
      ∀ {α : Type} (program : Program α) store,
        (Instance.context engine (linked.guarded other)).perform program store =
          (Instance.context engine linked).perform program store) ∧
    (∀ id host, linked.hosts.lookup id = some host → ∀ depth caller arguments store,
      linked.call engine.patience (depth + 1) caller id arguments store =
        match (linked.context engine.patience depth (caller == .guest) host.name).perform
          (host.body arguments) store with
        | none => none
        | some (.error fault, left) => some (.error (.raised fault), left)
        | some (.ok values, left) =>
          if values.map Value.type = host.signature.results then some (.ok values, left)
          else some (.error (.raised (.signatureMismatch (qualified host.space host.name)
            (.resultsDiffer values host.signature))), left)) ∧
    (∀ depth visible self name arguments values store left,
      (linked.context engine.patience depth visible self).invoke name arguments store =
        some (.ok values, left) →
      ∃ id signature, guest.exportedFunction? name = some id ∧
        guest.type? id = some (Signature.funcType signature) ∧
        values.map Value.type = signature.results) ∧
    (∀ host, Capability.Standard host → ∀ arguments extra,
      arguments.map Value.type = host.signature.params →
      host.body (arguments ++ extra) = host.body arguments) := by
  have typed : linked.Typed := link_importType links
  obtain rfl : linked.guest = guest := (link_ok_iff.mp links).2.2.2.1
  -- A start function takes nothing, even if it is a host function.
  have starts (id : String) (started : linked.guest.start = some id) : linked.Accepts id [] := by
    intro host bound
    have declared : linked.guest.type? id = some (Signature.funcType ⟨[], []⟩) :=
      (Wasm.Module.defect?_eq_none_iff.mp sound).start id started
    rw [← typed.signature_eq declared bound]
    rfl
  refine ⟨fun host passed received visible self name entry given arguments store prepared receives => ?_,
    fun host passed received start store started receives =>
      receives.typed typed (starts start started) rfl,
    fun other => ⟨begin_guarded typed engine starts other, fun program store => ?_⟩,
    fun id host bound depth caller arguments store =>
      call_host_apply bound engine.patience depth caller arguments store,
    fun depth visible self name arguments values store left invoked => typed.invoke_types invoked,
    fun host standard arguments extra declared => standard.body_append declared extra⟩
  · obtain ⟨accepts, bits⟩ := Typed.prepare_accepts typed prepared
    exact receives.typed typed accepts bits
  · exact perform_guarded typed
      (fun id arguments => call_guarded typed engine.patience engine.depth .host id arguments)
      program store

end Linked

namespace Sample

/-- A host function over one long word. -/
def tally : HostFunction := ⟨"env", "tally", ⟨[.i64], []⟩, fun _ => .done []⟩

/-- A guest that exports the host function which it imports. -/
def porch : Wasm.Module where
  imports := [⟨"env", "tally", .function "tally" ⟨[.number .i64], []⟩⟩]
  memories := [⟨1, none⟩]
  tables := []
  globals := []
  functions := []
  exports := [⟨"memory", .memory 0⟩, ⟨"count", .function "tally"⟩]
  segments := []
  start := none

/-- The guest with its import bound. -/
def porchLinked : Linked := ⟨porch, [("tally", tally)], .default, 1, 256⟩

end Sample

/-- A short word that the host passes through the export arrives as a long one, without its sign. -/
theorem Linked.boundary_typing_widened :
    ∃ received, (Instance.context Sample.engine Sample.porchLinked).prepare "count"
        [.i32 0xFFFFFFFF] = .ok ("tally", received) ∧
      received.map Value.type = [.i64] ∧ received.map Value.bits = [0xFFFFFFFF] := by
  -- The call by name enters the host function itself.
  refine ⟨[.i64 0xFFFFFFFF], rfl, ?_⟩
  let registry : Registry := ⟨[Sample.tally], List.pairwise_singleton _ _⟩
  have links : Linked.link .default registry Sample.porch = .ok Sample.porchLinked := rfl
  obtain ⟨receives, _⟩ := boundary_typing rfl links Sample.engine
  exact receives Sample.tally [.i32 0xFFFFFFFF] _ true "host" "count" "tally" _ _
    (Instance.initialStore .default Sample.porchLinked) rfl (.entered rfl)

end GuestBoundary
