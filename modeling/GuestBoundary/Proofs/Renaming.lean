import GuestBoundary.Guest
import GuestBoundary.Proofs.Linking
import Mathlib.Logic.Function.Basic

/-! Renaming the exports of guests and the namespace of their imports, in modules and in the conventions
alike: it changes nothing about a module but its names, and linking goes as before. -/

namespace GuestBoundary

/-- New names for exports and for namespaces, different ones for different ones. -/
structure Renaming where
  exported : String → String
  space : String → String
  exported_injective : Function.Injective exported
  space_injective : Function.Injective space

namespace Renaming

variable (names : Renaming)

@[simp] theorem exported_inj {first second : String} :
    names.exported first = names.exported second ↔ first = second := names.exported_injective.eq_iff

@[simp] theorem exported_beq (first second : String) :
    (names.exported first == names.exported second) = (first == second) := by
  rw [Bool.eq_iff_iff, beq_iff_eq, beq_iff_eq, exported_inj]

@[simp] theorem space_beq (first second : String) :
    (names.space first == names.space second) = (first == second) := by
  rw [Bool.eq_iff_iff, beq_iff_eq, beq_iff_eq, names.space_injective.eq_iff]

end Renaming

/-- The conventions under new names. -/
def Conventions.rename (names : Renaming) (conventions : Conventions) : Conventions where
  space := names.space conventions.space
  memoryExport := names.exported conventions.memoryExport
  allocExport := names.exported conventions.allocExport
  freeExport := conventions.freeExport.map names.exported

/-- Settings with the conventions under new names. -/
def Settings.rename (names : Renaming) (settings : Settings) : Settings :=
  { settings with conventions := settings.conventions.rename names }

/-- A host function that is imported from the namespace under its new name. -/
def HostFunction.rename (names : Renaming) (host : HostFunction) : HostFunction :=
  { host with space := names.space host.space }

/-- A registry with all namespaces under new names. -/
def Registry.rename (names : Renaming) (registry : Registry) : Registry where
  functions := registry.functions.map (·.rename names)
  distinct :=
    List.pairwise_map.mpr <| registry.distinct.imp fun apart same =>
      apart ⟨names.space_injective same.1, same.2⟩

namespace Wasm

def Export.rename (names : Renaming) (item : Export) : Export :=
  { item with name := names.exported item.name }

def Import.rename (names : Renaming) (item : Import) : Import :=
  { item with space := names.space item.space }

def ImportShape.rename (names : Renaming) (shape : ImportShape) : ImportShape :=
  { shape with space := names.space shape.space }

/-- A module with its exports, and the namespaces of its imports, under new names. -/
def Module.rename (names : Renaming) (guest : Module) : Module :=
  { guest with
    imports := guest.imports.map (·.rename names)
    exports := guest.exports.map (·.rename names) }

/-- A source of the renamed module. The only module in raw form has neither exports nor imports. -/
def Source.rename (names : Renaming) : Source → Source
  | .described guest => .described (guest.rename names)
  | source => source

end Wasm

/-- Linked host functions under new names. -/
def Linked.rename (names : Renaming) (linked : Linked) : Linked where
  guest := linked.guest.rename names
  hosts := linked.hosts.map fun entry => (entry.1, entry.2.rename names)
  conventions := linked.conventions.rename names
  minPages := linked.minPages
  maxPages := linked.maxPages

/-- What is wrong with a module, under new names. -/
def Invalid.rename (names : Renaming) : Invalid → Invalid
  | .repeatedExport name => .repeatedExport (names.exported name)
  | .emptyExport name => .emptyExport (names.exported name)
  | .memoryRequired name => .memoryRequired (names.exported name)
  | .memoryMissing name => .memoryMissing (names.exported name)
  | why => why

/-- Faults that name neither an export nor a namespace. -/
def Fault.Nameless : Fault → Prop
  | .unresolvedImport .. | .signatureMismatch .. | .exportNotFound _ | .arityMismatch .. => False
  | .allocationFailed _ (.missing _) | .allocationFailed _ (.failed _) => False
  | .invalidModule _ | .duplicateHostFunction .. => False
  | _ => True

/-- The second fault is the first one under new names. -/
inductive Fault.Renamed (names : Renaming) : Fault → Fault → Prop
  | nameless {fault : Fault} : fault.Nameless → Renamed names fault fault
  | unresolvedImport (space name : String) :
      Renamed names (.unresolvedImport space name) (.unresolvedImport (names.space space) name)
  /-- A host function is named by its namespace and name. -/
  | hostMismatch (space name : String) (why : Mismatch) :
      Renamed names (.signatureMismatch (qualified space name) why)
        (.signatureMismatch (qualified (names.space space) name) why)
  | exportMismatch (name : String) (why : Mismatch) :
      Renamed names (.signatureMismatch name why) (.signatureMismatch (names.exported name) why)
  | exportNotFound (name : String) :
      Renamed names (.exportNotFound name) (.exportNotFound (names.exported name))
  | arityMismatch (name : String) (expected actual : Nat) :
      Renamed names (.arityMismatch name expected actual)
        (.arityMismatch (names.exported name) expected actual)
  | allocatorMissing (length : UInt32) (name : String) :
      Renamed names (.allocationFailed length (.missing name))
        (.allocationFailed length (.missing (names.exported name)))
  /-- The message of the allocator's own fault is under new names as that fault is. -/
  | allocatorFailed (length : UInt32) {first second : Fault} : Renamed names first second →
      Renamed names (.allocationFailed length (.failed first.message))
        (.allocationFailed length (.failed second.message))
  | invalidModule (why : Invalid) :
      Renamed names (.invalidModule why) (.invalidModule (why.rename names))

/-- New names do not change the kind of a fault. -/
theorem Fault.Renamed.kind_eq {names : Renaming} {first second : Fault}
    (renamed : Fault.Renamed names first second) : second.kind = first.kind := by
  cases renamed <;> rfl

/-- The second outcome is the first one under new names: related values, or a fault and the same one
under new names. -/
inductive Outcome.Renamed {α β : Type} (names : Renaming) (values : α → β → Prop) :
    Except Fault α → Except Fault β → Prop
  | ok {first : α} {second : β} : values first second → Renamed names values (.ok first) (.ok second)
  | error {first second : Fault} : Fault.Renamed names first second →
      Renamed names values (.error first) (.error second)

section

variable {names : Renaming} {α β γ δ : Type}

/-- Outcomes in two parts are the same under new names if their parts are. -/
theorem Outcome.Renamed.bind {values : α → β → Prop} {others : γ → δ → Prop}
    {first : Except Fault α} {second : Except Fault β} {next : α → Except Fault γ}
    {later : β → Except Fault δ} (start : Outcome.Renamed names values first second)
    (rest : ∀ one other, values one other → Outcome.Renamed names others (next one) (later other)) :
    Outcome.Renamed names others (first >>= next) (second >>= later) := by
  cases start with
  | ok same => exact rest _ _ same
  | error renamed => exact .error renamed

/-- Members of a list are checked alike under new names if each of them is. -/
theorem Outcome.Renamed.forM {members : List α} {rename : α → β} {check : α → Except Fault Unit}
    {other : β → Except Fault Unit}
    (each : ∀ member, Outcome.Renamed names Eq (check member) (other (rename member))) :
    Outcome.Renamed names Eq (members.forM check) ((members.map rename).forM other) := by
  induction members with
  | nil => exact .ok rfl
  | cons member rest ih => exact (each member).bind fun _ _ _ => ih

end

namespace Wasm

variable (names : Renaming) (guest : Module)

/-- A renaming changes the first name that is repeated, but not whether there is one. -/
theorem repeated?_rename (listed : List String) :
    repeated? (listed.map names.exported) = (repeated? listed).map names.exported := by
  induction listed with
  | nil => rfl
  | cons name rest ih =>
    have again : (rest.map names.exported).contains (names.exported name) = rest.contains name := by
      rw [Bool.eq_iff_iff]
      simp
    rw [List.map_cons, repeated?, repeated?, again, ih]
    split <;> rfl

namespace Module

/-- Renaming leaves what code refers to as it is. -/
@[simp] theorem function?_rename (id : String) :
    (guest.rename names).function? id = guest.function? id := rfl

@[simp] theorem importType?_rename (id : String) :
    (guest.rename names).importType? id = guest.importType? id := by
  simp only [importType?, rename, List.findSome?_map]
  congr 1
  funext item
  obtain ⟨space, name, kind⟩ := item
  cases kind <;> rfl

@[simp] theorem type?_rename (id : String) : (guest.rename names).type? id = guest.type? id := by
  simp [type?]

@[simp] theorem globalType?_rename (id : String) :
    (guest.rename names).globalType? id = guest.globalType? id := rfl

@[simp] theorem allMemories_rename : (guest.rename names).allMemories = guest.allMemories := by
  simp only [allMemories, rename, List.filterMap_map]
  rfl

@[simp] theorem allTables_rename : (guest.rename names).allTables = guest.allTables := by
  simp only [allTables, rename, List.filterMap_map]
  rfl

@[simp] theorem functionIds_rename : (guest.rename names).functionIds = guest.functionIds := by
  simp only [functionIds, rename, List.filterMap_map]
  rfl

@[simp] theorem hasItem_rename (kind : ExportKind) :
    (guest.rename names).hasItem kind = guest.hasItem kind := by
  cases kind <;> simp [hasItem]

@[simp] theorem canStart_rename (id : String) :
    (guest.rename names).canStart id = guest.canStart id := by
  simp [canStart]

@[simp] theorem wellTyped_rename (function : Function) :
    (guest.rename names).wellTyped function = guest.wellTyped function := by
  have same : (guest.rename names).scope function = guest.scope function := by
    simp only [scope, allMemories_rename, Scope.mk.injEq, and_true]
    exact ⟨funext (type?_rename names guest), rfl⟩
  rw [wellTyped, wellTyped, same]

/-- A function is exported under a new name exactly as it was under the old one. -/
@[simp] theorem exportedFunction?_rename (name : String) :
    (guest.rename names).exportedFunction? (names.exported name) = guest.exportedFunction? name := by
  simp only [exportedFunction?, rename, List.findSome?_map]
  congr 1
  funext item
  obtain ⟨own, kind⟩ := item
  cases kind <;> simp [Export.rename]

/-- A memory is exported under a new name exactly as it was under the old one. -/
@[simp] theorem exportsMemory_rename (name : String) :
    (guest.rename names).exportsMemory (names.exported name) = guest.exportsMemory name := by
  simp only [exportsMemory, rename, List.any_map]
  congr 1
  funext item
  simp [Export.rename]

/-- A renaming changes neither whether a module has defects nor which of them is found first. -/
theorem defect?_rename : (guest.rename names).defect? = guest.defect?.map (Invalid.rename names) := by
  -- Each check comes to the same as before, under new names where it reports an export.
  have listed : (guest.rename names).exports.map (·.name) =
      (guest.exports.map (·.name)).map names.exported := by
    simp [rename, Export.rename]
  simp only [defect?, listed, repeated?_rename, functionIds_rename, allMemories_rename,
    allTables_rename, hasItem_rename, canStart_rename, wellTyped_rename,
    Option.orElse_eq_orElse, Option.orElse_eq_or, Option.map_or, Option.map_map,
    apply_ite (Option.map (Invalid.rename names)), Option.map_none, Option.map_some]
  simp only [rename, List.find?_map, Option.map_map]
  rfl

end Module

variable {names guest}

/-- A source of the renamed module is read as the source was before. -/
theorem Source.read_rename (source : Source) :
    Outcome.Renamed names (·.rename names = ·) source.read (source.rename names).read := by
  have held : (source.rename names).module? = source.module?.map (·.rename names) := by
    cases source with
    | described guest => rfl
    | missing => rfl
    | binary bytes => simp only [rename, module?]; split <;> rfl
    | text spelled => simp only [rename, module?]; split <;> rfl
  unfold read
  rw [held]
  cases source.module? with
  | none => exact .error (.invalidModule _)
  | some guest =>
    simp only [Option.map_some, Module.defect?_rename]
    cases guest.defect? with
    | none => exact .ok rfl
    | some why => exact .error (.invalidModule why)

/-- A memory is required under a new name as it was under the old one. -/
theorem Module.requireMemory_rename (name : String) :
    Outcome.Renamed names Eq (guest.interface.requireMemory name)
      ((guest.rename names).interface.requireMemory (names.exported name)) := by
  simp only [Interface.requireMemory, interface_exportsMemory, exportsMemory_rename]
  split
  · exact .ok rfl
  · exact .error (.invalidModule _)

/-- The imports of an interface are under new names as those of its module are. -/
theorem Module.interface_imports_rename :
    (guest.rename names).interface.imports = guest.interface.imports.map (·.rename names) := by
  simp only [interface, rename, List.map_map]
  rfl

end Wasm

namespace Registry

variable {names : Renaming} (registry : Registry)

/-- Under a new namespace there is the function that was under the old one. -/
theorem get?_rename (space name : String) :
    (registry.rename names).get? (names.space space) name =
      (registry.get? space name).map (·.rename names) := by
  simp only [get?, rename, List.find?_map]
  congr 2
  funext host
  simp [HostFunction.rename]

/-- An import is resolved under new names as it was under the old ones. -/
theorem resolveImport_rename (item : Wasm.ImportShape) :
    Outcome.Renamed names Eq (registry.resolveImport item)
      ((registry.rename names).resolveImport (item.rename names)) := by
  obtain ⟨space, name, kind⟩ := item
  simp only [resolveImport, Wasm.ImportShape.rename, get?_rename]
  cases kind with
  | function signature =>
    cases signature with
    | none =>
      cases registry.get? space name with
      | none => exact .error (.unresolvedImport space name)
      | some host => exact .error (.hostMismatch space name _)
    | some wanted =>
      cases registry.get? space name with
      | none => exact .error (.unresolvedImport space name)
      | some host =>
        simp only [Option.map_some, HostFunction.rename]
        split
        · exact .ok rfl
        · exact .error (.hostMismatch space name _)
  | _ => exact .error (.unresolvedImport space name)

end Registry

namespace Linked

variable {names : Renaming} {settings : Settings} {registry : Registry} {guest : Wasm.Module}

/-- Without the system interface, a module is checked under new names as before. -/
theorem check_rename (off : settings.wasi = false) :
    Outcome.Renamed names Eq (check settings registry guest)
      (check (settings.rename names) (registry.rename names) (guest.rename names)) := by
  have offToo : (settings.rename names).wasi = false := off
  unfold check
  rw [off, offToo]
  refine (Wasm.Module.requireMemory_rename _).bind fun _ _ _ => ?_
  rw [Wasm.Module.interface_imports_rename]
  -- No namespace is left to anybody else.
  exact .forM fun item => registry.resolveImport_rename item

/-- An import is bound under new names to the function that it was bound to. -/
theorem bindImport_rename (item : Wasm.Import) :
    bindImport (registry.rename names) (item.rename names) =
      (bindImport registry item).map fun entry => (entry.1, entry.2.rename names) := by
  obtain ⟨space, name, kind⟩ := item
  simp only [bindImport, Wasm.Import.rename, Registry.get?_rename]
  cases kind with
  | function id type =>
    cases registry.get? space name with
    | none => rfl
    | some host =>
      simp only [Option.map_some, HostFunction.rename]
      split <;> rfl
  | _ => rfl

/-- All imports are bound as before. -/
theorem bindImports_rename (imports : List Wasm.Import) :
    (imports.map (·.rename names)).mapM (bindImport (registry.rename names)) =
      (imports.mapM (bindImport registry)).map
        (List.map fun entry => (entry.1, entry.2.rename names)) := by
  induction imports with
  | nil => rfl
  | cons item rest ih =>
    rw [List.map_cons, List.mapM_cons, List.mapM_cons, bindImport_rename, ih]
    cases bindImport registry item with
    | error failure => rfl
    | ok entry => cases rest.mapM (bindImport registry) <;> rfl

/-- A memory that does not fit is refused in words that name nothing. -/
theorem memoryPages_nameless {failure : Failure}
    (failed : memoryPages settings guest = .error failure) : failure.fault.Nameless := by
  unfold memoryPages at failed
  split at failed
  · dsimp only at failed
    split at failed <;> cases failed
    trivial
  · cases failed
    trivial

/-- An import that cannot be bound is refused in words that name nothing. -/
theorem bindImports_nameless {imports : List Wasm.Import} {failure : Failure}
    (failed : imports.mapM (bindImport registry) = .error failure) : failure.fault.Nameless := by
  induction imports with
  | nil => cases failed
  | cons item rest ih =>
    rw [List.mapM_cons] at failed
    cases bound : bindImport registry item with
    | error refused =>
      -- The first import that is refused decides.
      rw [bound] at failed
      cases failed
      unfold bindImport at bound
      split at bound
      · split at bound <;> cases bound
        trivial
      · cases bound
        trivial
    | ok entry =>
      rw [bound] at failed
      cases others : rest.mapM (bindImport registry) with
      | error refused =>
        rw [others] at failed
        cases failed
        exact ih others
      | ok entries =>
        rw [others] at failed
        cases failed

/-- Without the system interface, a guest is linked under new names as before. -/
theorem link_rename (off : settings.wasi = false) :
    Outcome.Renamed names (·.rename names = ·) (link settings registry guest)
      (link (settings.rename names) (registry.rename names) (guest.rename names)) := by
  have offToo : (settings.rename names).wasi = false := off
  have imports : (guest.rename names).imports = guest.imports.map (·.rename names) := rfl
  have sizes : memoryPages (settings.rename names) (guest.rename names) =
      memoryPages settings guest := rfl
  unfold link
  refine (check_rename off).bind fun _ _ _ => ?_
  rw [offered_registry registry off, offered_registry (registry.rename names) offToo, imports, sizes]
  simp only [bind, Except.bind, bindImports_rename]
  -- The checks have passed, so only refusals of the engine are left, which name nothing.
  cases bound : guest.imports.mapM (bindImport registry) with
  | error failure => exact .error (.nameless (bindImports_nameless bound))
  | ok hosts =>
    cases sized : memoryPages settings guest with
    | error failure => exact .error (.nameless (memoryPages_nameless sized))
    | ok pages => exact .ok rfl

/-- A host function is found under the name that code calls it by as before. -/
theorem lookup_rename (linked : Linked) (id : String) :
    (linked.rename names).hosts.lookup id = (linked.hosts.lookup id).map (·.rename names) := by
  unfold rename
  dsimp only
  induction linked.hosts with
  | nil => rfl
  | cons entry rest ih =>
    rw [List.map_cons, List.lookup_cons, List.lookup_cons, ih]
    split <;> rfl

end Linked

end GuestBoundary
