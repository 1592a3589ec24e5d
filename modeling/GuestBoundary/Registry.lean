import GuestBoundary.Program
import GuestBoundary.Text.Quoted
import GuestBoundary.Wasm.Interface

/-! The registry of host functions that guests may import, and the check of imports against it. -/

namespace GuestBoundary

/-- A host function: its names, its signature, and the program it runs for given arguments. -/
structure HostFunction where
  space : String
  name : String
  signature : Signature
  body : List Value → Program (List Value)

namespace HostFunction

/-- A host function in debugging output, which does not show its program. -/
def debug (function : HostFunction) : String :=
  "HostFunction \x7b namespace: " ++ Quoted.ofText function.space ++
    ", name: " ++ Quoted.ofText function.name ++
    ", signature: " ++ function.signature.debug ++ ", .. \x7d"

/-- Run a host function; its result list must have the declared types. -/
def run (function : HostFunction) (arguments : List Value) : Program (List Value) := do
  let values ← function.body arguments
  if function.signature.acceptsResults values then return values
  else .fail (.signatureMismatch (qualified function.space function.name)
    (.resultsDiffer values function.signature))

/-- The order of listings: by namespace, then by name. -/
def before (first second : HostFunction) : Bool :=
  first.space < second.space || (first.space == second.space && first.name ≤ second.name)

/-- Two functions do not have both the same namespace and the same name. -/
def Apart (first second : HostFunction) : Prop :=
  ¬ (first.space = second.space ∧ first.name = second.name)

end HostFunction

/-- Host functions in the order of their registration. To keep them by namespace and then by name comes to
the same (`Namespaces.after_eq`). -/
@[ext]
structure Registry where
  functions : List HostFunction
  /-- No two of them have the same namespace and name. -/
  distinct : functions.Pairwise HostFunction.Apart

namespace Registry

/-- The registry without functions. -/
def empty : Registry := ⟨[], .nil⟩

/-- The function under a namespace and name. -/
def get? (registry : Registry) (space name : String) : Option HostFunction :=
  registry.functions.find? fun function => function.space == space && function.name == name

/-- There is nothing under a namespace and name exactly if no function has both. -/
theorem get?_eq_none_iff {registry : Registry} {space name : String} :
    registry.get? space name = none ↔
      ∀ function ∈ registry.functions, ¬ (function.space = space ∧ function.name = name) := by
  simp [get?, List.find?_eq_none]

/-- Add a function whose names are free. -/
def add (registry : Registry) (function : HostFunction)
    (free : registry.get? function.space function.name = none) : Registry where
  functions := registry.functions ++ [function]
  distinct := by
    -- The new function comes last, and nothing before it has its names.
    refine List.pairwise_append.mpr ⟨registry.distinct, List.pairwise_singleton _ _, ?_⟩
    intro earlier member last same
    cases List.mem_singleton.mp same
    exact get?_eq_none_iff.mp free earlier member

/-- Register a function; a name that is taken stays with its first function. -/
def register (registry : Registry) (function : HostFunction) : Except Fault Registry :=
  match free : registry.get? function.space function.name with
  | some _ => .error (.duplicateHostFunction function.space function.name)
  | none => .ok (registry.add function free)

/-- A function whose names are free is added. -/
theorem register_free {registry : Registry} {function : HostFunction}
    (free : registry.get? function.space function.name = none) :
    registry.register function = .ok (registry.add function free) := by
  unfold register
  split
  · rename_i found
    rw [free] at found
    cases found
  · rfl

/-- A function whose names are taken is refused. -/
theorem register_taken {registry : Registry} {function host : HostFunction}
    (found : registry.get? function.space function.name = some host) :
    registry.register function = .error (.duplicateHostFunction function.space function.name) := by
  unfold register
  split
  · rfl
  · rename_i free
    rw [free] at found
    cases found

/-- Register functions one after another up to the first that fails; those before it stay. -/
def registerAll (registry : Registry) : List HostFunction → Registry × Except Fault Unit
  | [] => (registry, .ok ())
  | function :: rest =>
    match registry.register function with
    | .ok registry => registry.registerAll rest
    | .error fault => (registry, .error fault)

/-- The number of functions. -/
def size (registry : Registry) : Nat := registry.functions.length

/-- All functions, ordered by namespace and then by name. -/
def toList (registry : Registry) : List HostFunction :=
  registry.functions.mergeSort HostFunction.before

/-- Check that one import can be satisfied. -/
def resolveImport (registry : Registry) (item : Wasm.ImportShape) : Except Fault Unit :=
  match item.kind, registry.get? item.space item.name with
  | .function (some wanted), some host =>
    if wanted = host.signature then .ok ()
    else .error (.signatureMismatch (qualified item.space item.name)
      (.importDiffers wanted host.signature))
  | .function none, some _ =>
    .error (.signatureMismatch (qualified item.space item.name) .importNotInteger)
  | _, _ => .error (.unresolvedImport item.space item.name)

/-- Check imports in order; those from a linked namespace are left to whoever linked it. -/
def resolveImports (registry : Registry) (imports : List Wasm.ImportShape)
    (linked : List String) : Except Fault Unit :=
  imports.forM fun item =>
    if linked.contains item.space then .ok () else registry.resolveImport item

end Registry

end GuestBoundary
