import GuestBoundary.Linking
import GuestBoundary.Wasm.Body

/-! Instances: running guest functions and host programs on a store, each calling the other. -/

namespace GuestBoundary

/-- How far the engine goes: the calls that may be active at once, and the iterations of one loop
that it waits for. -/
structure Engine where
  depth : Nat
  patience : Nat
  deriving DecidableEq

/-- Who calls a function. -/
inductive Caller where
  /-- Code of the instance, whose exports a host function then sees. -/
  | guest
  /-- The host, which has no instance to show. -/
  | host
  deriving DecidableEq

/-- Where a host program runs. -/
structure Context where
  linked : Linked
  /-- Whether the exports of the instance can be seen. -/
  visible : Bool
  /-- The name of the host function, for lines of the log. -/
  self : String
  /-- Call a function of the instance. -/
  call : String → List Value → Run (List Value)

namespace Context

/-- The exported function that the context shows under a name, with its type. -/
def function? (context : Context) (name : String) : Option (String × Wasm.FuncType) := do
  guard context.visible
  let id ← context.linked.guest.exportedFunction? name
  let type ← context.linked.guest.type? id
  return (id, type)

/-- Whether the context shows a memory under a name. -/
def showsMemory (context : Context) (name : String) : Bool :=
  context.visible && context.linked.guest.exportsMemory name

/-- The first argument that does not fit its parameter, with both types. -/
def firstUnfit? (index : Nat) : List Value → List NumType → Option Mismatch
  | value :: values, type :: types =>
    if value.fits type then firstUnfit? (index + 1) values types
    else some (.argument index value.type type)
  | _, _ => none

/-- The arguments as a signature takes them, or the first reason why it does not. -/
def checkArguments (name : String) (signature : Signature) (arguments : List Value) :
    Except Fault (List Value) :=
  if arguments.length ≠ signature.arity then
    .error (.arityMismatch name signature.arity arguments.length)
  else
    match firstUnfit? 0 arguments signature.params with
    | some why => .error (.signatureMismatch name why)
    | none => .ok (List.zipWith Value.coerce arguments signature.params)

/-- The function to enter for a call by name, and the arguments to enter it with. -/
def prepare (context : Context) (name : String) (arguments : List Value) :
    Except Fault (String × List Value) :=
  -- The name comes before the type, and the type before the arguments.
  match context.function? name with
  | none => .error (.exportNotFound name)
  | some (id, type) =>
    match type.signature? with
    | none => .error (.signatureMismatch name (.exportNotInteger type))
    | some signature => do return (id, ← checkArguments name signature arguments)

/-- Call an exported function; nothing runs unless the call passes all checks. -/
def invoke (context : Context) (name : String) (arguments : List Value) (store : Store) :
    Option (Except Fault (List Value) × Store) :=
  match context.prepare name arguments with
  -- A call that is turned down leaves the store as it is.
  | .error fault => some (.error fault, store)
  | .ok (id, arguments) => (context.call id arguments).surface store

/-- Access to a memory that the context shows. -/
def memory (context : Context) (name : String) (store : Store) : Except Fault Region :=
  -- A guest has one memory of its own, under whatever names it exports it.
  if context.showsMemory name then .ok store.memory
  else .error (.invalidModule (.memoryMissing name))

/-- Answer a request on a store. -/
def answer (context : Context) : (request : Request) → Store → Option (request.Reply × Store)
  | .conventions, store => some (context.linked.conventions, store)
  | .self, store => some (context.self, store)
  | .function name, store => some ((context.function? name).map (·.2), store)
  | .invoke name arguments, store => context.invoke name arguments store
  | .memorySize name, store =>
    some (if context.showsMemory name then some store.memory.size else none, store)
  | .read name offset length, store =>
    some ((context.memory name store).bind (·.read offset length), store)
  | .write name offset bytes, store =>
    -- A write that fails leaves memory as it is.
    match (context.memory name store).bind (·.write offset bytes) with
    | .ok memory => some (.ok (), { store with memory })
    | .error fault => some (.error fault, store)
  | .log message, store => some ((), { store with log := store.log.add ⟨context.self, message⟩ })
  | .logged, store => some (store.log.size, store)
  | .note event, store => some ((), store.note event)

/-- Run a host program. -/
def perform {α : Type} (context : Context) : Program α → Store → Option (Except Fault α × Store)
  | .done value, store => some (.ok value, store)
  | .fail fault, store => some (.error fault, store)
  | .ask request resume, store =>
    match context.answer request store with
    | none => none
    | some (reply, store) => context.perform (resume reply) store

end Context

namespace Linked

/-- A function as guest code calls it. -/
def callable? (linked : Linked) (call : String → List Value → Run (List Value)) (id : String) :
    Option Wasm.Callable :=
  -- Imported names come before the guest's own, from which they always differ.
  match linked.hosts.lookup id with
  | some host => some ⟨host.signature.params, call id⟩
  | none => do
    let function ← linked.guest.function? id
    let signature ← function.type.signature?
    return ⟨signature.params, call id⟩

/-- Call a function while at most so many more calls may become active. -/
def call (linked : Linked) (patience : Nat) :
    (depth : Nat) → Caller → String → List Value → Run (List Value)
  | 0, _, _, _ => Run.trap .stackExhausted
  | depth + 1, caller, id, arguments =>
    match linked.hosts.lookup id with
    | some host =>
      -- What the host calls in turn has one level less, and the host for a caller.
      Run.carry <|
        Context.perform
          { linked, visible := caller == .guest, self := host.name,
            call := linked.call patience depth .host }
          (host.run arguments)
    | none =>
      match linked.guest.function? id with
      | some function =>
        -- The code of the guest calls for itself, host functions included.
        function.run
          { callable? := linked.callable? (linked.call patience depth .guest),
            maxPages := linked.maxPages, patience }
          arguments
      | none => Run.trap .illTyped

/-- The context of a host program while so many more calls may become active. -/
def context (linked : Linked) (patience depth : Nat) (visible : Bool) (self : String) : Context where
  linked
  visible
  self
  call := linked.call patience depth .host

end Linked

/-- A linked guest with its store. -/
structure Instance where
  linked : Linked
  store : Store

namespace Instance

/-- The context of the instance's own host, which sees all exports. -/
def context (engine : Engine) (linked : Linked) : Context :=
  linked.context engine.patience engine.depth true "host"

/-- Run a host program on an instance. -/
def perform {α : Type} (engine : Engine) (inst : Instance) (program : Program α) :
    Option (Except Fault α × Instance) :=
  match (context engine inst.linked).perform program inst.store with
  | none => none
  | some (outcome, store) => some (outcome, { inst with store })

/-- The store that a linked guest starts from. -/
def initialStore (settings : Settings) (linked : Linked) : Store where
  memory := .zeros (linked.minPages * pageSize)
  globals := linked.guest.globals.map fun global => (global.id, global.type.value global.init)
  fuel := settings.fuelLimit.map (·.toNat)
  log := .new settings
  journal := []

/-- What instantiation runs: the segments are written in order, then the start function runs. -/
def begin (engine : Engine) (linked : Linked) : Run Unit := do
  linked.guest.segments.forM fun segment => Wasm.storeBytes segment.offset segment.bytes
  match linked.guest.start with
  | none => return ()
  | some id => do
    let _ ← linked.call engine.patience engine.depth .guest id []
    return ()

/-- Instantiate a guest. -/
def create (engine : Engine) (settings : Settings) (registry : Registry) (guest : Wasm.Module) :
    Option (Except Fault Instance) :=
  match Linked.link settings registry guest with
  | .error fault => some (.error fault)
  | .ok linked =>
    match (begin engine linked).surface (initialStore settings linked) with
    | none => none
    -- An instance that fails to start is gone, whatever its store had become.
    | some (.error fault, _) => some (.error fault)
    | some (.ok _, store) => some (.ok ⟨linked, store⟩)

end Instance

end GuestBoundary
