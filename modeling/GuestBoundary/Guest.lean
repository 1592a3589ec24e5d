import GuestBoundary.Capability
import GuestBoundary.Instance
import GuestBoundary.Settings.Writer
import GuestBoundary.Wasm.Source

/-! Guests and the sandboxes they come from: a guest is loaded, instantiated and closed, in order. -/

namespace GuestBoundary

/-- What the guests of a host have in common. -/
structure Sandbox where
  engine : Engine
  settings : Settings
  registry : Registry

/-- What a guest has at each stage of its life. -/
inductive Phase where
  | unloaded
  | loaded (guest : Wasm.Module)
  | instantiated (inst : Instance)
  | closed

/-- The stage of a phase. -/
def Phase.stage : Phase → Stage
  | .unloaded => .unloaded
  | .loaded _ => .loaded
  | .instantiated _ => .instantiated
  | .closed => .closed

/-- A guest of a sandbox. -/
structure Guest where
  sandbox : Sandbox
  phase : Phase

namespace Guest

/-- The stage of a guest. -/
def stage (guest : Guest) : Stage := guest.phase.stage

/-- The fault of an operation that needs another stage. -/
def wrongStage (guest : Guest) (expected : Stage) : Fault := .invalidState expected guest.stage

/-- Load a guest that is not loaded yet; a source that is no module closes it. -/
def load (guest : Guest) (source : Wasm.Source) : Except Fault Unit × Guest :=
  match guest.phase with
  | .unloaded =>
    match source.read with
    | .ok code => (.ok (), { guest with phase := .loaded code })
    | .error fault => (.error fault, { guest with phase := .closed })
  | _ => (.error (guest.wrongStage .unloaded), guest)

/-- Instantiate a loaded guest; any failure closes it. -/
def instantiate (guest : Guest) : Option (Except Fault Unit × Guest) :=
  match guest.phase with
  | .loaded code =>
    let sandbox := guest.sandbox
    match Instance.create sandbox.engine sandbox.settings sandbox.registry code with
    | none => none
    | some (.ok inst) => some (.ok (), { guest with phase := .instantiated inst })
    | some (.error fault) => some (.error fault, { guest with phase := .closed })
  | _ => some (.error (guest.wrongStage .loaded), guest)

/-- Close a guest, whatever its stage. -/
def close (guest : Guest) : Guest := { guest with phase := .closed }

/-- The interface of a guest, known from loading to closing. -/
def interface (guest : Guest) : Except Fault Wasm.Interface :=
  match guest.phase with
  | .loaded code => .ok code.interface
  | .instantiated inst => .ok inst.linked.guest.interface
  | _ => .error (guest.wrongStage .loaded)

/-- Run a host program on the instance of a guest. -/
def run {α : Type} (guest : Guest) (program : Program α) : Option (Except Fault α × Guest) :=
  match guest.phase with
  | .instantiated inst =>
    match inst.perform guest.sandbox.engine program with
    | none => none
    | some (outcome, inst) => some (outcome, { guest with phase := .instantiated inst })
  | _ => some (.error (guest.wrongStage .instantiated), guest)

/-- The lines that a guest's instance has recorded. -/
def logs (guest : Guest) : Array LogLine :=
  match guest.phase with
  | .instantiated inst => inst.store.log.lines
  | _ => #[]

/-- The fuel that a guest's instance has left, if it is metered. -/
def fuel (guest : Guest) : Option Nat :=
  match guest.phase with
  | .instantiated inst => inst.store.fuel
  | _ => none

/-- A guest in debugging output. -/
def debug (guest : Guest) : String :=
  let stage := match guest.stage with
    | .unloaded => "Unloaded"
    | .loaded => "Loaded"
    | .instantiated => "Instantiated"
    | .closed => "Closed"
  "GuestModule \x7b state: " ++ stage ++ ", .. \x7d"

end Guest

namespace Sandbox

/-- A sandbox whose guests may import the standard capabilities from the agreed namespace. -/
def standard (engine : Engine) (settings : Settings) : Except Fault Sandbox :=
  match Registry.empty.registerAll (Capability.standard settings.conventions.space) with
  | (registry, .ok _) => .ok ⟨engine, settings, registry⟩
  | (_, .error fault) => .error fault

/-- A new guest, not loaded yet. -/
def guest (sandbox : Sandbox) : Guest := ⟨sandbox, .unloaded⟩

/-- A loaded guest. -/
def load (sandbox : Sandbox) (source : Wasm.Source) : Except Fault Guest :=
  match sandbox.guest.load source with
  | (.ok _, guest) => .ok guest
  | (.error fault, _) => .error fault

/-- An instantiated guest. -/
def instantiate (sandbox : Sandbox) (source : Wasm.Source) : Option (Except Fault Guest) :=
  match sandbox.load source with
  | .error fault => some (.error fault)
  | .ok guest =>
    match guest.instantiate with
    | none => none
    | some (.ok _, guest) => some (.ok guest)
    | some (.error fault, _) => some (.error fault)

/-- A sandbox in debugging output. -/
def debug (sandbox : Sandbox) : String :=
  "Sandbox \x7b config: " ++ sandbox.settings.debug ++
    ", host_functions: " ++ Nat.repr sandbox.registry.size ++ ", .. \x7d"

end Sandbox

end GuestBoundary
