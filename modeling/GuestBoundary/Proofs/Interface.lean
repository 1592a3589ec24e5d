import GuestBoundary.Proofs.Arguments
import GuestBoundary.Proofs.Lifecycle
import GuestBoundary.Proofs.Memory
import Mathlib.Data.List.Nodup

/-! The interface of a module and its running instance: what is listed before anything runs is what the
host finds by name afterwards. -/

namespace GuestBoundary

/-- Under distinct keys, looking a key up finds exactly the entry that is there. -/
theorem lookup_eq_some_iff_mem {α β : Type} [BEq α] [LawfulBEq α] {entries : List (α × β)}
    (distinct : (entries.map (·.1)).Nodup) {key : α} {value : β} :
    entries.lookup key = some value ↔ (key, value) ∈ entries := by
  induction entries with
  | nil => simp
  | cons entry rest ih =>
    obtain ⟨own, first⟩ := entry
    obtain ⟨new, others⟩ := List.nodup_cons.mp distinct
    rw [List.lookup_cons, List.mem_cons]
    by_cases same : key = own
    · -- The entry in front decides, since no other has its key.
      subst same
      have absent : (key, value) ∉ rest := fun member => new (List.mem_map.mpr ⟨_, member, rfl⟩)
      simp [absent, eq_comm]
    · have differ : (key == own) = false := beq_false_of_ne same
      rw [differ, ih others]
      simp [same]

namespace Wasm

/-- No name is repeated exactly if all of them are different. -/
theorem repeated?_eq_none_iff {names : List String} : repeated? names = none ↔ names.Nodup := by
  induction names with
  | nil => simp [repeated?]
  | cons name rest ih =>
    rw [repeated?, List.nodup_cons]
    by_cases again : name ∈ rest <;> simp [again, ih]

/-- Declared types are not all integers exactly if one of them is none. -/
theorem numbers?_eq_none_iff {types : List ValType} :
    types.mapM ValType.number? = none ↔ ∃ type ∈ types, type.number? = none := by
  induction types with
  | nil => simp
  | cons type rest ih =>
    rw [List.mapM_cons]
    cases own : type.number? with
    | none => simp [own]
    | some number =>
      -- The first type is an integer, so the rest decides.
      cases others : rest.mapM ValType.number? with
      | none => simpa [own] using ih.mp others
      | some numbers =>
        rw [others] at ih
        simpa [own] using ih

/-- A function type that uses anything but integers, for a parameter or a result. -/
def FuncType.Foreign (type : FuncType) : Prop :=
  ∃ declared ∈ type.params ++ type.results, declared.number? = none

/-- A function type has no signature exactly if it is foreign to the boundary. -/
theorem FuncType.signature?_eq_none_iff {type : FuncType} :
    type.signature? = none ↔ type.Foreign := by
  -- The first list that holds another type ends it, and it can be either of the two.
  simp only [Foreign, List.mem_append, or_and_right, exists_or, ← numbers?_eq_none_iff]
  unfold signature?
  cases type.params.mapM ValType.number? with
  | none => simp
  | some given => cases type.results.mapM ValType.number? <;> simp

namespace Module

variable {guest : Module} {name : String}

/-- The guest exports a function of a type under a name. -/
def ExportsFunction (guest : Module) (name : String) (type : FuncType) : Prop :=
  ∃ id, ⟨name, .function id⟩ ∈ guest.exports ∧ guest.type? id = some type

/-- No two exports of a valid module have the same name. -/
theorem Valid.export_unique (valid : guest.Valid) {first second : Export}
    (one : first ∈ guest.exports) (other : second ∈ guest.exports)
    (same : first.name = second.name) : first = second :=
  List.inj_on_of_nodup_map (repeated?_eq_none_iff.mp valid.exportNames) one other same

/-- A function that is found under a name is exported under it. -/
theorem exportedFunction?_mem {id : String} (found : guest.exportedFunction? name = some id) :
    ⟨name, .function id⟩ ∈ guest.exports := by
  -- Only functions are taken, and only under the very name.
  obtain ⟨⟨own, kind⟩, member, shown⟩ := List.exists_of_findSome?_eq_some found
  cases kind with
  | function entry =>
    simp only [beq_iff_eq, Option.ite_none_right_eq_some, Option.some.injEq] at shown
    obtain ⟨rfl, rfl⟩ := shown
    exact member
  | _ => cases shown

/-- In a valid module, the function found under a name is the one exported under it. -/
theorem Valid.exportedFunction?_eq_some_iff (valid : guest.Valid) {id : String} :
    guest.exportedFunction? name = some id ↔ ⟨name, .function id⟩ ∈ guest.exports := by
  refine ⟨exportedFunction?_mem, fun member => ?_⟩
  -- Something is found, and there is only one export that it can be.
  cases found : guest.exportedFunction? name with
  | none => simpa using List.findSome?_eq_none_iff.mp found _ member
  | some other =>
    have same := valid.export_unique (exportedFunction?_mem found) member rfl
    cases same
    rfl

/-- An exported item has a signature exactly if it is a function of the type of that signature. -/
theorem exportSignature?_eq_some_iff {item : Export} {signature : Signature} :
    guest.exportSignature? item = some signature ↔
      ∃ id, item.kind = .function id ∧ guest.type? id = some signature.funcType := by
  unfold exportSignature?
  cases item.kind with
  | function id => simp [Option.bind_eq_some_iff, FuncType.signature?_eq_some_iff]
  | _ => simp

/-- The interface lists the exported functions over integers alone, each with its signature. -/
theorem mem_interface_exports {signature : Signature} :
    (name, signature) ∈ guest.interface.exports ↔ guest.ExportsFunction name signature.funcType := by
  -- Sorting the list does not change what is in it.
  rw [interface, (List.mergeSort_perm _ _).mem_iff, List.mem_filterMap]
  simp only [Option.map_eq_some_iff, Prod.mk.injEq, exportSignature?_eq_some_iff, ExportsFunction]
  constructor
  · rintro ⟨⟨own, kind⟩, member, _, ⟨id, rfl, typed⟩, rfl, rfl⟩
    exact ⟨id, member, typed⟩
  · rintro ⟨id, member, typed⟩
    exact ⟨_, member, signature, ⟨id, rfl, typed⟩, rfl, rfl⟩

/-- Every export is listed once, by name: with a signature or among the others. -/
theorem interface_names_perm (guest : Module) :
    (guest.interface.exports.map (·.1) ++ guest.interface.others).Perm
      (guest.exports.map (·.name)) := by
  -- The two lists are the exports that have a signature and those that have none.
  have signed (items : List Export) :
      (items.filterMap fun item =>
        (guest.exportSignature? item).map fun signature => (item.name, signature)).map (·.1) =
      (items.filter fun item => (guest.exportSignature? item).isSome).map (·.name) := by
    induction items with
    | nil => rfl
    | cons item rest ih =>
      cases given : guest.exportSignature? item <;> simp [given, ih]
  have apart := (List.filter_append_perm (fun item => (guest.exportSignature? item).isSome)
    guest.exports).map (·.name)
  simp only [Option.not_isSome, List.map_append, ← signed] at apart
  exact (((List.mergeSort_perm _ _).map _).append_right _).trans apart

/-- The names of a valid module's interface are all different. -/
theorem Valid.interface_names_nodup (valid : guest.Valid) :
    (guest.interface.exports.map (·.1) ++ guest.interface.others).Nodup :=
  (interface_names_perm guest).nodup_iff.mpr (repeated?_eq_none_iff.mp valid.exportNames)

/-- The functions of an interface are listed by name, in order. -/
theorem Valid.interface_ordered (valid : guest.Valid) :
    (guest.interface.exports.map (·.1)).Pairwise (· < ·) := by
  -- Sorted names that are different follow each other strictly.
  have sorted : (guest.interface.exports.map (·.1)).Pairwise (· ≤ ·) := by
    rw [List.pairwise_map]
    refine (List.pairwise_mergeSort ?_ ?_ _).imp of_decide_eq_true
    · exact fun first second third => by simpa using String.le_trans
    · exact fun first second => by simpa using String.le_total first.1 second.1
  have different := (List.nodup_append.mp valid.interface_names_nodup).1
  refine (sorted.and different).imp fun {first second} both => ?_
  exact Std.lt_of_le_of_ne both.1 both.2

/-- In a valid module, the interface gives a signature under a name exactly if a function of that
signature is exported under it. -/
theorem Valid.interface_signature?_eq_some_iff (valid : guest.Valid) {signature : Signature} :
    guest.interface.signature? name = some signature ↔
      guest.ExportsFunction name signature.funcType := by
  rw [Interface.signature?,
    lookup_eq_some_iff_mem (List.nodup_append.mp valid.interface_names_nodup).1,
    mem_interface_exports]

/-- The interface lists a memory exactly if it is exported under that name. -/
theorem interface_exportsMemory_iff :
    guest.interface.exportsMemory name = true ↔ ∃ index, ⟨name, .memory index⟩ ∈ guest.exports := by
  simp only [Interface.exportsMemory, interface, List.contains_iff_mem, List.mem_map, List.mem_filter]
  constructor
  · rintro ⟨⟨own, kind⟩, ⟨member, memory⟩, rfl⟩
    cases kind with
    | memory index => exact ⟨index, member⟩
    | _ => cases memory
  · rintro ⟨index, member⟩
    exact ⟨_, ⟨member, rfl⟩, rfl⟩

/-- A memory that is exported is listed among the other exports. -/
theorem mem_others_of_exportsMemory (exported : guest.interface.exportsMemory name = true) :
    name ∈ guest.interface.others := by
  -- A memory has no signature.
  obtain ⟨index, member⟩ := interface_exportsMemory_iff.mp exported
  exact List.mem_map.mpr ⟨_, List.mem_filter.mpr ⟨member, rfl⟩, rfl⟩

end Module

/-- A shape that says of an import what the boundary sees of it. -/
structure ImportShape.Describes (shape : ImportShape) (item : Import) : Prop where
  space : shape.space = item.space
  name : shape.name = item.name
  signed : ∀ signature : Signature, shape.kind = .function (some signature) ↔
    ∃ id, item.kind = .function id signature.funcType
  /-- A function without a signature uses a type that is foreign to the boundary. -/
  foreign : shape.kind = .function none ↔ ∃ id type, item.kind = .function id type ∧ type.Foreign
  memory : shape.kind = .memory ↔ ∃ limits, item.kind = .memory limits
  table : shape.kind = .table ↔ ∃ limits, item.kind = .table limits
  globals : shape.kind = .global ↔ ∃ type, item.kind = .global type

theorem Import.shape_describes (item : Import) : item.shape.Describes item := by
  -- Each kind of import has its own kind of shape, and only functions are told apart further.
  obtain ⟨space, name, kind⟩ := item
  cases kind with
  | function id type =>
    constructor
    case signed => simp [shape, FuncType.signature?_eq_some_iff]
    case foreign => simp [shape, FuncType.signature?_eq_none_iff]
    all_goals simp [shape]
  | _ => constructor <;> simp [shape]

/-- An interface describes all imports of its module, one by one. -/
theorem Module.interface_imports (guest : Module) :
    List.Forall₂ ImportShape.Describes guest.interface.imports guest.imports := by
  simp only [interface, List.forall₂_map_left_iff, List.forall₂_same]
  exact fun item _ => item.shape_describes

/-- An interface that lists what a module declares, each item once. -/
structure Interface.Lists (shown : Interface) (code : Module) : Prop where
  /-- Every export is a key of the functions or one of the others. -/
  names : (shown.exports.map (·.1) ++ shown.others).Perm (code.exports.map (·.name))
  distinct : (shown.exports.map (·.1) ++ shown.others).Nodup
  sorted : (shown.exports.map (·.1)).Pairwise (· < ·)
  /-- The others stand in the order in which the module declares them. -/
  declared : shown.others.Sublist (code.exports.map (·.name))
  signed : ∀ name signature, shown.signature? name = some signature ↔
    code.ExportsFunction name signature.funcType
  memory : ∀ name, shown.exportsMemory name = true ↔ ∃ index, ⟨name, .memory index⟩ ∈ code.exports
  memories : ∀ name, shown.exportsMemory name = true → name ∈ shown.others
  imports : List.Forall₂ ImportShape.Describes shown.imports code.imports

/-- The interface of a valid module lists what the module declares. -/
theorem Module.Valid.interface_lists {guest : Module} (valid : guest.Valid) :
    guest.interface.Lists guest where
  names := Module.interface_names_perm guest
  distinct := valid.interface_names_nodup
  sorted := valid.interface_ordered
  declared := List.filter_sublist.map _
  signed := fun _ _ => valid.interface_signature?_eq_some_iff
  memory := fun _ => Module.interface_exportsMemory_iff
  memories := fun _ => Module.mem_others_of_exportsMemory
  imports := Module.interface_imports guest

end Wasm

namespace Context

variable {context : Context} {name : String} {store : Store}

section

variable (visible : context.visible = true) (valid : context.linked.guest.Valid)
include visible valid

/-- Where exports are seen, a function is found under a name exactly if it is exported under it. -/
theorem exists_function?_iff {type : Wasm.FuncType} :
    (∃ id, context.function? name = some (id, type)) ↔
      context.linked.guest.ExportsFunction name type := by
  -- The name gives the function, and the function its type.
  refine exists_congr fun id => ?_
  rw [← valid.exportedFunction?_eq_some_iff]
  refine ⟨function?_type, fun ⟨exported, typed⟩ => ?_⟩
  simp [function?, visible, guard, exported, typed]

/-- Where exports are seen, nothing is found under a name exactly if no function is exported under it. -/
theorem function?_eq_none_iff :
    context.function? name = none ↔
      ¬ ∃ type, context.linked.guest.ExportsFunction name type := by
  simp only [← exists_function?_iff visible valid, Option.eq_none_iff_forall_ne_some, Prod.forall,
    ne_eq, not_exists]
  exact forall_comm

/-- The signature under a name is that of the function exported under it, if it has one. -/
theorem perform_signature_ok_iff {signature : Signature} :
    context.perform (Program.signature name) store = some (.ok signature, store) ↔
      context.linked.guest.ExportsFunction name signature.funcType := by
  rw [← exists_function?_iff visible valid, perform_signature]
  cases context.function? name with
  | none => simp
  | some function =>
    obtain ⟨id, type⟩ := function
    -- The type that was found has the signature or none.
    simp only [Option.some.injEq, Prod.mk.injEq, exists_eq_left', ← Wasm.FuncType.signature?_eq_some_iff]
    cases type.signature? <;> simp

/-- A signature is not found exactly if no function is exported under the name. -/
theorem perform_signature_missing_iff :
    context.perform (Program.signature name) store = some (.error (.exportNotFound name), store) ↔
      ¬ ∃ type, context.linked.guest.ExportsFunction name type := by
  rw [← function?_eq_none_iff visible valid, perform_signature]
  cases context.function? name with
  | none => simp
  | some function => cases known : function.2.signature? <;> simp [known]

/-- A signature is a mismatch exactly if the function exported under the name is foreign, and then the
mismatch tells its type. -/
theorem perform_signature_foreign_iff {type : Wasm.FuncType} :
    context.perform (Program.signature name) store =
        some (.error (.signatureMismatch name (.exportNotInteger type)), store) ↔
      context.linked.guest.ExportsFunction name type ∧ type.Foreign := by
  simp only [← exists_function?_iff visible valid, perform_signature]
  cases context.function? name with
  | none => simp
  | some function =>
    obtain ⟨id, found⟩ := function
    simp only [Option.some.injEq, Prod.mk.injEq, exists_eq_left', ← Wasm.FuncType.signature?_eq_none_iff]
    -- The type that was found is the one that is told, and it has no signature.
    cases known : found.signature? with
    | none =>
      simp only [Option.some.injEq, Prod.mk.injEq, Except.error.injEq, Fault.signatureMismatch.injEq,
        Mismatch.exportNotInteger.injEq, true_and, and_true]
      exact ⟨fun same => ⟨same, same ▸ known⟩, fun told => told.1⟩
    | some signature =>
      simp only [Option.some.injEq, Prod.mk.injEq, reduceCtorEq, false_and, false_iff, not_and]
      rintro rfl foreign
      rw [foreign] at known
      cases known

end

/-- A memory is found under a name exactly if the interface lists it. -/
theorem exists_memorySize_iff (visible : context.visible = true) :
    (∃ size, context.perform (.ask (.memorySize name) .done) store = some (.ok (some size), store)) ↔
      context.linked.guest.interface.exportsMemory name = true := by
  rw [Wasm.Module.interface_exportsMemory]
  simp [perform, answer, showsMemory, visible]

/-- The memory of the conventions is resolved exactly if the interface lists it. -/
theorem exists_resolve_iff (visible : context.visible = true) :
    (∃ view, context.perform View.resolve store = some (.ok view, store)) ↔
      context.linked.guest.interface.exportsMemory context.linked.conventions.memoryExport = true := by
  have sees : context.SeesMemory ↔
      context.linked.guest.interface.exportsMemory context.linked.conventions.memoryExport = true := by
    rw [Wasm.Module.interface_exportsMemory, SeesMemory, showsMemory, visible, Bool.true_and]
  rw [← sees]
  -- A context that does not see the memory answers with a fault.
  by_cases found : context.SeesMemory
  · simp [perform_resolve found, found]
  · simp [perform_resolve_blind found, found]

end Context

namespace Guest

/-- The module that a guest holds, from loading to closing. -/
def code? (guest : Guest) : Option Wasm.Module :=
  match guest.phase with
  | .loaded code => some code
  | .instantiated inst => some inst.linked.guest
  | _ => none

/-- A program leaves a guest as it is exactly if it leaves the store as it is. -/
theorem run_still_iff {α : Type} {sandbox : Sandbox} {inst : Instance} {program : Program α}
    {outcome : Except Fault α} :
    Guest.run ⟨sandbox, .instantiated inst⟩ program =
        some (outcome, ⟨sandbox, .instantiated inst⟩) ↔
      (Instance.context sandbox.engine inst.linked).perform program inst.store =
        some (outcome, inst.store) := by
  obtain ⟨linked, store⟩ := inst
  rw [run_instantiated, Instance.perform]
  cases (Instance.context sandbox.engine linked).perform program store with
  | none => simp
  | some ended => simp [Prod.ext_iff]

/-- The module that a guest holds is valid, and its interface is known. -/
theorem code?_valid {sandbox : Sandbox} {history : List Performed} {guest : Guest}
    {code : Wasm.Module} (performs : Performs sandbox.guest history guest)
    (holds : guest.code? = some code) : guest.interface = .ok code.interface ∧ code.Valid := by
  -- The module was checked as it was loaded, and an instance runs the same one.
  have sound := performs.sound
  obtain ⟨own, phase⟩ := guest
  cases phase with
  | loaded | instantiated =>
    cases holds
    exact ⟨rfl, Wasm.Module.defect?_eq_none_iff.mp (by first | exact sound | exact sound.1)⟩
  | _ => cases holds

/--
The interface of a guest and its running instance agree.

While a guest holds a module, its interface lists every export of the module exactly once, as a key of
the functions or, in order of declaration, among the others, where every memory is; it also
lists every import once, in order, and a function without a signature exactly if it uses another type
than integers.
Once the guest is instantiated, what the host finds under a name is what the interface tells of that
name: the same signature, an export exactly for every function, integers or not, a memory exactly where
one is listed. A signature is missing exactly where no function is exported, and a mismatch exactly where
the function uses another type, which the mismatch tells. None of these questions changes the guest.
-/
theorem interface_agrees {sandbox : Sandbox} {history : List Performed} {guest : Guest}
    {code : Wasm.Module} (performs : Performs sandbox.guest history guest)
    (holds : guest.code? = some code) :
    ∃ shown, guest.interface = .ok shown ∧ shown.Lists code ∧
      (guest.stage = .instantiated →
        ((∃ view, guest.run View.resolve = some (.ok view, guest)) ↔
          shown.exportsMemory sandbox.settings.conventions.memoryExport = true) ∧
        ∀ name,
          (∀ signature, shown.signature? name = some signature ↔
            guest.run (Program.signature name) = some (.ok signature, guest)) ∧
          (∃ found, guest.run (Program.hasExport name) = some (.ok found, guest) ∧
            (found = true ↔ ∃ type, code.ExportsFunction name type)) ∧
          (guest.run (Program.signature name) = some (.error (.exportNotFound name), guest) ↔
            ¬ ∃ type, code.ExportsFunction name type) ∧
          (∀ type, guest.run (Program.signature name) =
              some (.error (.signatureMismatch name (.exportNotInteger type)), guest) ↔
            code.ExportsFunction name type ∧ type.Foreign) ∧
          ((∃ size, guest.run (.ask (.memorySize name) .done) = some (.ok (some size), guest)) ↔
            shown.exportsMemory name = true)) := by
  obtain ⟨known, valid⟩ := code?_valid performs holds
  refine ⟨_, known, valid.interface_lists, fun instantiated => ?_⟩
  have sound := performs.sound
  obtain ⟨own, phase⟩ := guest
  obtain rfl : own = sandbox := performs.stage_eq.2
  cases phase with
  | instantiated inst =>
    cases holds
    have shows : (Instance.context own.engine inst.linked).visible = true := rfl
    have named : inst.linked.conventions = own.settings.conventions :=
      (Linked.link_ok_iff.mp sound.2).2.2.2.2
    refine ⟨?_, fun name => ⟨fun signature => ?_, ?_, ?_, fun type => ?_, ?_⟩⟩
    · rw [← named]
      exact (exists_congr fun _ => run_still_iff).trans (Context.exists_resolve_iff shows)
    · rw [run_still_iff, Context.perform_signature_ok_iff shows valid,
        valid.interface_signature?_eq_some_iff]
      rfl
    · refine ⟨_, run_still_iff.mpr (Context.perform_hasExport _ _ _), ?_⟩
      -- What is found has an identifier and a type.
      rw [Option.isSome_iff_exists, Prod.exists, exists_comm]
      exact exists_congr fun _ => Context.exists_function?_iff shows valid
    · rw [run_still_iff]
      exact Context.perform_signature_missing_iff shows valid
    · rw [run_still_iff]
      exact Context.perform_signature_foreign_iff shows valid
    · exact (exists_congr fun _ => run_still_iff).trans (Context.exists_memorySize_iff shows)
  | _ => cases instantiated

end Guest

namespace Sample

/-- The guest with exports of all kinds: a function over floats and an imported one, its memory under
two names, a table and a global. -/
def shop : Wasm.Module :=
  { guest with
    tables := [⟨1, none⟩]
    functions := ⟨"scale", ⟨[.f32], []⟩, [], []⟩ :: guest.functions
    exports := [⟨"scale", .function "scale"⟩, ⟨"memory", .memory 0⟩, ⟨"visit", .function "visit"⟩,
      ⟨"slots", .table 0⟩, ⟨"heap", .memory 0⟩, ⟨"echo", .function "echo"⟩, ⟨"level", .global "next"⟩] }

end Sample

namespace Guest

/-- The function over floats is an export without a signature, the imported one has one, and the table
is no function. -/
theorem interface_agrees_sample :
    ∃ guest shown, Performs
      (Sandbox.mk Sample.engine .default (Sample.registry Sample.descend)).guest
      [⟨.load (.described Sample.shop), .ok ()⟩, ⟨.instantiate, .ok ()⟩] guest ∧
      guest.code? = some Sample.shop ∧ guest.interface = .ok shown ∧ shown.Lists Sample.shop ∧
      guest.run (Program.hasExport "scale") = some (.ok true, guest) ∧
      guest.run (Program.signature "scale") =
        some (.error (.signatureMismatch "scale" (.exportNotInteger ⟨[.f32], []⟩)), guest) ∧
      guest.run (Program.signature "visit") = some (.ok (.words 1 0), guest) ∧
      shown.signature? "visit" = some (.words 1 0) ∧
      guest.run (Program.signature "slots") = some (.error (.exportNotFound "slots"), guest) ∧
      shown.exportsMemory "heap" = true := by
  have run : ∃ guest, Performs
      (Sandbox.mk Sample.engine .default (Sample.registry Sample.descend)).guest
      [⟨.load (.described Sample.shop), .ok ()⟩, ⟨.instantiate, .ok ()⟩] guest ∧
      guest.code? = some Sample.shop ∧ guest.stage = .instantiated :=
    ⟨_, .more rfl (.more rfl .none), rfl, rfl⟩
  obtain ⟨guest, performs, holds, instantiated⟩ := run
  obtain ⟨shown, known, lists, agrees⟩ := interface_agrees performs holds
  obtain ⟨_, named⟩ := agrees instantiated
  obtain ⟨_, ⟨found, asked, exported⟩, _, foreign, _⟩ := named "scale"
  have float : Sample.shop.ExportsFunction "scale" ⟨[.f32], []⟩ := ⟨"scale", by decide, rfl⟩
  have imported : shown.signature? "visit" = some (.words 1 0) :=
    (lists.signed _ _).mpr ⟨"visit", by decide, rfl⟩
  cases exported.mpr ⟨_, float⟩
  refine ⟨guest, shown, performs, holds, known, lists, asked,
    (foreign _).mpr ⟨float, .f32, by decide, rfl⟩, ((named "visit").1 _).mp imported, imported,
    (named "slots").2.2.1.mpr ?_, (lists.memory "heap").mpr ⟨0, by decide⟩⟩
  -- The only export of that name is the table.
  rintro ⟨type, id, member, _⟩
  simp [Sample.shop] at member

end Guest

end GuestBoundary
