import GuestBoundary.Failure
import GuestBoundary.Registry
import GuestBoundary.SystemInterface

/-! Linking: the host functions behind a guest's imports, and the memory it starts with. -/

namespace GuestBoundary

/-- A guest whose imports are bound to host functions. -/
structure Linked where
  guest : Wasm.Module
  /-- The host functions by the names that the guest's code calls them. -/
  hosts : List (String × HostFunction)
  conventions : Conventions
  /-- The pages that memory starts with. -/
  minPages : Nat
  /-- The most pages that memory may grow to. -/
  maxPages : Nat

namespace Linked

/-- Define a function for imports to be bound to. A name that is defined already is refused. -/
def define (offer : Registry) (function : HostFunction) : Except Fault Registry :=
  (offer.register function).mapError fun _ =>
    .engine s!"{qualified function.space function.name} is defined twice"

/-- What imports can be bound to: the registry and, if it is on, the system interface. No name may
be defined twice. -/
def offered (settings : Settings) (registry : Registry) : Except Fault Registry := do
  -- The functions of a registry have different names, so their order does not matter.
  let offer ← registry.functions.foldlM define .empty
  if settings.wasi then
    match SystemInterface.names.find? fun name =>
        (offer.get? SystemInterface.space name).isSome with
    | some name => .error (.engine s!"{name} is defined twice")
    | none => SystemInterface.functions.foldlM define offer
  else return offer

/-- The host function that an import is bound to, which must have the very type it asks for. -/
def bindImport (offer : Registry) (item : Wasm.Import) : Except Failure (String × HostFunction) :=
  match item.kind, offer.get? item.space item.name with
  | .function id type, some host =>
    if type = host.signature.funcType then .ok (id, host)
    else .error (.refused "incompatible import type")
  | _, _ => .error (.refused "unknown import")

/-- The first and the most pages of the guest's memory. There is exactly one, and it must not start
beyond the limit. -/
def memoryPages (settings : Settings) (guest : Wasm.Module) : Except Failure (Nat × Nat) :=
  let limit := settings.maxMemoryPages.toNat
  match guest.memories with
  | [memory] =>
    if memory.min ≤ limit then .ok (memory.min, min (memory.max.getD Wasm.pageCap) limit)
    else .error (.refused "memory minimum size exceeds memory limits")
  | _ => .error (.refused "memory count exceeds memory limits")

/-- The checks that are made before anything of the engine is touched: the memory export, then the
imports in order. -/
def check (settings : Settings) (registry : Registry) (guest : Wasm.Module) :
    Except Fault Unit := do
  guest.interface.requireMemory settings.conventions.memoryExport
  -- Imports of the system interface are left to the engine, if it is on.
  registry.resolveImports guest.interface.imports
    (if settings.wasi then [SystemInterface.space] else [])

/-- Link a guest. -/
def link (settings : Settings) (registry : Registry) (guest : Wasm.Module) :
    Except Fault Linked := do
  -- The engine binds imports and sets up memory only after all checks have passed.
  check settings registry guest
  let offer ← offered settings registry
  let hosts ← (guest.imports.mapM (bindImport offer)).mapError Failure.fault
  let (minPages, maxPages) ← (memoryPages settings guest).mapError Failure.fault
  return { guest, hosts, conventions := settings.conventions, minPages, maxPages }

end Linked

end GuestBoundary
