import GuestBoundary.Linking
import Mathlib.Data.List.Forall2

/-! Linking: the check of imports and their binding to host functions agree, so what has passed the
one cannot fail the other. -/

namespace GuestBoundary

/-- A sequence of steps that may fail gives a value exactly if each of them does. -/
theorem except_bind_ok_iff {ε α β : Type} {first : Except ε α} {next : α → Except ε β} {value : β} :
    (first >>= next) = .ok value ↔ ∃ middle, first = .ok middle ∧ next middle = .ok value := by
  cases first with
  | error failure => exact ⟨nofun, nofun⟩
  | ok middle => exact ⟨fun given => ⟨middle, rfl, given⟩, fun ⟨_, same, given⟩ => by cases same; exact given⟩

/-- Renaming failures does not change which steps give a value. -/
theorem mapError_ok_iff {ε δ α : Type} {step : Except ε α} {rename : ε → δ} {value : α} :
    step.mapError rename = .ok value ↔ step = .ok value := by
  cases step with
  | error failure => exact ⟨nofun, nofun⟩
  | ok middle => exact ⟨fun same => by cases same; rfl, fun same => by cases same; rfl⟩

/-- A check of every member of a list passes exactly if each of them does. -/
theorem forM_ok_iff {ε α : Type} {members : List α} {check : α → Except ε Unit} :
    members.forM check = .ok () ↔ ∀ member ∈ members, check member = .ok () := by
  induction members with
  | nil => exact ⟨fun _ => nofun, fun _ => rfl⟩
  | cons member rest ih =>
    -- The members after the first are only checked once the first has passed.
    change (check member >>= fun _ => rest.forM check) = .ok () ↔ _
    rw [except_bind_ok_iff, List.forall_mem_cons, ← ih]
    exact ⟨fun ⟨_, first, others⟩ => ⟨first, others⟩, fun ⟨first, others⟩ => ⟨(), first, others⟩⟩

/-- A check of every member of a list fails as that of the first member does that does not pass. -/
theorem forM_error_iff {ε α : Type} {members : List α} {check : α → Except ε Unit} {failure : ε} :
    members.forM check = .error failure ↔
      ∃ before member after, members = before ++ member :: after ∧
        (∀ earlier ∈ before, check earlier = .ok ()) ∧ check member = .error failure := by
  induction members with
  | nil => exact ⟨nofun, fun ⟨before, member, after, split, _⟩ => by cases before <;> cases split⟩
  | cons first rest ih =>
    change (check first >>= fun _ => rest.forM check) = .error failure ↔ _
    simp only [List.cons_eq_append_iff]
    cases checked : check first with
    | error refused =>
      -- The failure is that of the first member, since nothing that comes before one that fails may fail.
      constructor
      · rintro ⟨⟩
        exact ⟨[], first, rest, .inl ⟨rfl, rfl⟩, nofun, checked⟩
      · rintro ⟨before, member, after, ⟨rfl, same⟩ | ⟨tail, rfl, _⟩, passed, failed⟩
        · cases same
          exact checked.symm.trans failed
        · rw [passed first List.mem_cons_self] at checked
          cases checked
    | ok _ =>
      -- The first member passes, so it joins those before the one that fails.
      refine Iff.trans ih ?_
      constructor
      · rintro ⟨before, member, after, rfl, passed, failed⟩
        exact ⟨first :: before, member, after, .inr ⟨before, rfl, rfl⟩,
          List.forall_mem_cons.mpr ⟨checked, passed⟩, failed⟩
      · rintro ⟨before, member, after, ⟨rfl, same⟩ | ⟨tail, rfl, rfl⟩, passed, failed⟩
        · cases same
          rw [checked] at failed
          cases failed
        · exact ⟨tail, member, after, rfl, (List.forall_mem_cons.mp passed).2, failed⟩

/-- Members that pass a check in any case need not be checked. -/
theorem forM_filter {ε α : Type} (members : List α) (skips : α → Bool) (check : α → Except ε Unit) :
    (members.forM fun member => if skips member then .ok () else check member) =
      (members.filter fun member => !skips member).forM check := by
  induction members with
  | nil => rfl
  | cons first rest ih =>
    change ((if skips first then .ok () else check first) >>= fun _ => rest.forM _) = _
    cases skipped : skips first with
    | true =>
      rw [List.filter_cons_of_neg (by simp [skipped])]
      exact ih
    | false =>
      rw [List.filter_cons_of_pos (by simp [skipped]), ih]
      rfl

namespace Wasm

/-- Declared types are integers alone exactly if they are given by boundary types. -/
theorem numbers?_eq_some_iff {types : List ValType} {numbers : List NumType} :
    types.mapM ValType.number? = some numbers ↔ types = numbers.map .number := by
  induction types generalizing numbers with
  | nil => cases numbers <;> simp
  | cons type rest ih =>
    -- The first type must be an integer, and the rest are integers by themselves.
    cases type with
    | number type =>
      cases others : rest.mapM ValType.number? with
      | none =>
        -- Some later type is not an integer, so the rest is given by no boundary types.
        have never (tail : List NumType) : rest ≠ tail.map .number := fun same => by
          rw [ih.mpr same] at others
          cases others
        cases numbers <;> simp [List.mapM_cons, ValType.number?, others, never]
      | some tail =>
        -- The rest determines its boundary types, since no two of them are declared alike.
        have known := ih.mp others
        have apart (numbers : List NumType) :
            rest = numbers.map .number ↔ tail = numbers := by
          rw [known, List.map_inj_right fun _ _ => ValType.number.inj]
        cases numbers <;> simp [List.mapM_cons, ValType.number?, others, apart]
    | _ => cases numbers <;> simp [List.mapM_cons, ValType.number?]

/-- A function type has a signature exactly if it is the type of that signature. -/
theorem FuncType.signature?_eq_some_iff {type : FuncType} {signature : Signature} :
    type.signature? = some signature ↔ type = signature.funcType := by
  obtain ⟨params, results⟩ := type
  obtain ⟨numbers, answers⟩ := signature
  -- The parameters must all be integers, and so must the results.
  simp only [FuncType.signature?, Signature.funcType, FuncType.mk.injEq]
  constructor
  · intro known
    obtain ⟨first, given, known⟩ := Option.bind_eq_some_iff.mp known
    obtain ⟨second, answered, same⟩ := Option.bind_eq_some_iff.mp known
    cases same
    exact ⟨numbers?_eq_some_iff.mp given, numbers?_eq_some_iff.mp answered⟩
  · rintro ⟨given, answered⟩
    rw [numbers?_eq_some_iff.mpr given, numbers?_eq_some_iff.mpr answered]
    rfl

@[simp] theorem FuncType.signature?_funcType (signature : Signature) :
    signature.funcType.signature? = some signature := signature?_eq_some_iff.mpr rfl

/-- The interface of a module names the memories that the module exports. -/
theorem Module.interface_exportsMemory (guest : Module) (name : String) :
    guest.interface.exportsMemory name = guest.exportsMemory name := by
  -- The one asks whether the name is among the names of memories, the other for such an export.
  rw [Bool.eq_iff_iff]
  simp [interface, Interface.exportsMemory, exportsMemory, and_assoc]

end Wasm

namespace Registry

/-- What is found under a namespace and name has both. -/
theorem get?_names {registry : Registry} {space name : String} {function : HostFunction}
    (found : registry.get? space name = some function) :
    function ∈ registry.functions ∧ function.space = space ∧ function.name = name := by
  refine ⟨List.mem_of_find?_eq_some found, ?_⟩
  simpa using List.find?_some found

/-- Functions of one registry that come before another one leave its names free. -/
theorem get?_before {registry larger : Registry} {function : HostFunction} {rest : List HostFunction}
    (split : larger.functions = registry.functions ++ function :: rest) :
    registry.get? function.space function.name = none :=
  get?_eq_none_iff.mpr fun earlier member =>
    (List.pairwise_append.mp (split ▸ larger.distinct)).2.2 earlier member function List.mem_cons_self

/-- Functions that lead from one registry to another are all registered. -/
theorem registerAll_eq {registry larger : Registry} {functions : List HostFunction}
    (adds : larger.functions = registry.functions ++ functions) :
    registry.registerAll functions = (larger, .ok ()) := by
  induction functions generalizing registry with
  | nil =>
    rw [List.append_nil] at adds
    rw [registerAll, Registry.ext adds]
  | cons function rest ih =>
    -- The next function is free among those before it, and joins them for the rest.
    have free : registry.get? function.space function.name = none := get?_before adds
    simp only [registerAll, register_free free]
    exact ih (by rw [adds, List.append_cons]; rfl)

/-- An import can be satisfied exactly by a registered function of the signature it asks for. -/
theorem resolveImport_ok_iff {registry : Registry} {item : Wasm.ImportShape} :
    registry.resolveImport item = .ok () ↔
      ∃ host, registry.get? item.space item.name = some host ∧
        item.kind = .function (some host.signature) := by
  -- Without a function under the names, or with something else asked for, there is a fault.
  unfold resolveImport
  constructor
  · intro resolved
    split at resolved
    · rename_i wanted host asked found
      split at resolved
      · rename_i same
        exact ⟨host, found, same ▸ asked⟩
      · cases resolved
    · cases resolved
    · cases resolved
  · rintro ⟨host, found, asked⟩
    simp only [found, asked, if_true]

/-- The check of an import asks for the signature under its names, and for nothing else of a registry. -/
theorem resolveImport_congr {first second : Registry} {item : Wasm.ImportShape}
    (agree : (first.get? item.space item.name).map (·.signature) =
      (second.get? item.space item.name).map (·.signature)) :
    first.resolveImport item = second.resolveImport item := by
  -- What is found in one registry is found in the other, but for what it does.
  unfold resolveImport
  cases found : first.get? item.space item.name with
  | none =>
    have missing : second.get? item.space item.name = none := by
      rw [found] at agree
      exact Option.map_eq_none_iff.mp agree.symm
    rw [missing]
  | some host =>
    rw [found] at agree
    obtain ⟨other, there, signature⟩ := Option.map_eq_some_iff.mp agree.symm
    rw [there]
    cases item.kind with
    | function wanted => cases wanted <;> simp only [signature]
    | _ => rfl

/-- Imports from linked namespaces are passed over. -/
theorem resolveImports_filter (registry : Registry) (imports : List Wasm.ImportShape)
    (linked : List String) :
    registry.resolveImports imports linked =
      (imports.filter fun item => !linked.contains item.space).forM registry.resolveImport :=
  forM_filter imports (fun item => linked.contains item.space) registry.resolveImport

/-- A list of imports is resolved exactly if each of them is, those of linked namespaces apart. -/
theorem resolveImports_ok_iff {registry : Registry} {imports : List Wasm.ImportShape}
    {linked : List String} :
    registry.resolveImports imports linked = .ok () ↔
      ∀ item ∈ imports, item.space ∉ linked → registry.resolveImport item = .ok () := by
  rw [resolveImports, forM_ok_iff]
  refine forall₂_congr fun item _ => ?_
  by_cases linkedTo : item.space ∈ linked <;> simp [linkedTo]

end Registry

namespace Linked

/-- A function is defined after those before it, if its names are free. -/
theorem define_ok_iff {offer left : Registry} {function : HostFunction} :
    define offer function = .ok left ↔
      offer.get? function.space function.name = none ∧
        left.functions = offer.functions ++ [function] := by
  -- Defining is registering, but for the fault of a clash.
  rw [define, mapError_ok_iff]
  cases found : offer.get? function.space function.name with
  | some host => simp [Registry.register_taken found]
  | none =>
    rw [Registry.register_free found, Except.ok.injEq]
    exact ⟨fun same => ⟨rfl, same ▸ rfl⟩, fun ⟨_, same⟩ => Registry.ext same.symm⟩

/-- Functions that lead from one registry to another are defined without a clash. -/
theorem foldlM_define_eq {functions : List HostFunction} {offer larger : Registry}
    (adds : larger.functions = offer.functions ++ functions) :
    functions.foldlM define offer = .ok larger := by
  induction functions generalizing offer with
  | nil =>
    rw [List.append_nil] at adds
    rw [List.foldlM_nil, Registry.ext adds]
    rfl
  | cons function rest ih =>
    -- The functions still to come have other names, and so has the next one.
    have free : offer.get? function.space function.name = none := Registry.get?_before adds
    have first : define offer function = .ok (offer.add function free) :=
      define_ok_iff.mpr ⟨free, rfl⟩
    rw [List.foldlM_cons, first]
    exact ih (by rw [adds, List.append_cons]; rfl)

/-- Every function of a registry is defined without a clash, and the definitions are the registry. -/
theorem define_registry (registry : Registry) :
    registry.functions.foldlM define .empty = .ok registry := foldlM_define_eq rfl

/-- Without the system interface, imports can be bound to the registry, and to nothing else. -/
theorem offered_registry {settings : Settings} (registry : Registry) (off : settings.wasi = false) :
    offered settings registry = .ok registry := by
  rw [offered, define_registry]
  simp only [off, bind, Except.bind]
  rfl

/-- Definitions add to the functions that there are, and nothing else. -/
theorem foldlM_define_mem {functions : List HostFunction} {offer left : Registry}
    (defined : functions.foldlM define offer = .ok left) :
    left.functions = offer.functions ++ functions := by
  induction functions generalizing offer with
  | nil =>
    cases defined
    rw [List.append_nil]
  | cons function rest ih =>
    rw [List.foldlM_cons, except_bind_ok_iff] at defined
    obtain ⟨middle, first, others⟩ := defined
    rw [ih others, (define_ok_iff.mp first).2, List.append_assoc]
    rfl

/-- A definition that fails is refused by the engine. -/
theorem foldlM_define_error {functions : List HostFunction} {offer : Registry} {fault : Fault}
    (failed : functions.foldlM define offer = .error fault) : ∃ text, fault = .engine text := by
  -- The first function that cannot be defined ends it.
  induction functions generalizing offer with
  | nil => cases failed
  | cons function rest ih =>
    rw [List.foldlM_cons] at failed
    cases first : define offer function with
    | ok middle =>
      rw [first] at failed
      exact ih failed
    | error clash =>
      rw [first] at failed
      cases failed
      unfold define Except.mapError at first
      split at first
      · cases first
        exact ⟨_, rfl⟩
      · cases first

/-- What is offered are the registered functions and those of the system interface. -/
theorem offered_mem {settings : Settings} {registry offer : Registry}
    (offers : offered settings registry = .ok offer) :
    ∀ host ∈ offer.functions,
      host ∈ registry.functions ∨ settings.wasi = true ∧ host ∈ SystemInterface.functions := by
  -- The registry is defined first, and the system interface is only added when it is on.
  rw [offered, define_registry] at offers
  intro host member
  simp only [bind, Except.bind] at offers
  split at offers
  · rename_i on
    split at offers
    · cases offers
    · rw [foldlM_define_mem offers] at member
      exact (List.mem_append.mp member).imp id (⟨on, ·⟩)
  · cases offers
    exact .inl member

/-- An import is bound exactly to the function offered under its names, if it has the very type that
the import asks for. -/
theorem bindImport_ok_iff {offer : Registry} {item : Wasm.Import} {entry : String × HostFunction} :
    bindImport offer item = .ok entry ↔
      offer.get? item.space item.name = some entry.2 ∧
        item.kind = .function entry.1 entry.2.signature.funcType := by
  -- Names without a function, items of another kind and other types are all refused.
  unfold bindImport
  constructor
  · intro bound
    split at bound
    · rename_i id type host asked found
      split at bound
      · rename_i same
        cases bound
        exact ⟨found, same ▸ asked⟩
      · cases bound
    · cases bound
  · rintro ⟨found, asked⟩
    simp only [found, asked, if_true]

/-- An import can be bound exactly if it passes the check against the same functions. -/
theorem bindImport_iff_resolveImport {offer : Registry} {item : Wasm.Import} :
    (∃ entry, bindImport offer item = .ok entry) ↔ offer.resolveImport item.shape = .ok () := by
  -- The check compares signatures and the binding compares types, which is the same.
  simp only [bindImport_ok_iff, Registry.resolveImport_ok_iff, Wasm.Import.shape]
  constructor
  · rintro ⟨⟨id, host⟩, found, asked⟩
    exact ⟨host, found, by simp [asked]⟩
  · rintro ⟨host, found, asked⟩
    cases kind : item.kind with
    | function id type =>
      simp only [kind, Wasm.ShapeKind.function.injEq, Wasm.FuncType.signature?_eq_some_iff] at asked
      exact ⟨(id, host), found, by rw [asked]⟩
    | _ => simp [kind] at asked

/-- All imports are bound exactly if each of them is, in order. -/
theorem bindImports_ok_iff {offer : Registry} {imports : List Wasm.Import}
    {hosts : List (String × HostFunction)} :
    imports.mapM (bindImport offer) = .ok hosts ↔
      List.Forall₂ (fun item entry => bindImport offer item = .ok entry) imports hosts := by
  induction imports generalizing hosts with
  | nil =>
    rw [List.forall₂_nil_left_iff]
    exact ⟨fun given => by cases given; rfl, fun empty => by rw [empty]; rfl⟩
  | cons item rest ih =>
    -- The imports are bound in order, and the first that cannot be ends it.
    rw [List.mapM_cons, except_bind_ok_iff]
    constructor
    · rintro ⟨entry, first, others⟩
      obtain ⟨entries, bound, given⟩ := except_bind_ok_iff.mp others
      cases given
      exact .cons first (ih.mp bound)
    · intro bound
      cases bound with
      | cons first others => exact ⟨_, first, except_bind_ok_iff.mpr ⟨_, ih.mpr others, rfl⟩⟩

/-- Every entry is bound to one of the imports. -/
theorem bindImports_mem {offer : Registry} {imports : List Wasm.Import}
    {hosts : List (String × HostFunction)} (bound : imports.mapM (bindImport offer) = .ok hosts)
    {entry : String × HostFunction} (member : entry ∈ hosts) :
    ∃ item ∈ imports, bindImport offer item = .ok entry := by
  -- Entries and imports correspond one to one.
  have each := bindImports_ok_iff.mp bound
  clear bound
  induction each with
  | nil => cases member
  | @cons item first rest entries binds _ ih =>
    rcases List.mem_cons.mp member with rfl | later
    · exact ⟨item, List.mem_cons_self .., binds⟩
    · obtain ⟨other, among, given⟩ := ih later
      exact ⟨other, List.mem_cons_of_mem _ among, given⟩

/-- Imports that can each be bound can all be bound. -/
theorem bindImports_total {offer : Registry} {imports : List Wasm.Import}
    (each : ∀ item ∈ imports, ∃ entry, bindImport offer item = .ok entry) :
    ∃ hosts, imports.mapM (bindImport offer) = .ok hosts := by
  induction imports with
  | nil => exact ⟨[], rfl⟩
  | cons item rest ih =>
    obtain ⟨⟨entry, first⟩, others⟩ := List.forall_mem_cons.mp each
    obtain ⟨entries, bound⟩ := ih others
    refine ⟨entry :: entries, bindImports_ok_iff.mpr (.cons first ?_)⟩
    exact bindImports_ok_iff.mp bound

/-- The checks before linking pass exactly if the memory is exported and every import is resolved
that is not left to the system interface. -/
theorem check_ok_iff {settings : Settings} {registry : Registry} {guest : Wasm.Module} :
    check settings registry guest = .ok () ↔
      guest.exportsMemory settings.conventions.memoryExport = true ∧
        ∀ item ∈ guest.imports, (settings.wasi = true → item.space ≠ SystemInterface.space) →
          registry.resolveImport item.shape = .ok () := by
  have exports : guest.interface.requireMemory settings.conventions.memoryExport = .ok () ↔
      guest.exportsMemory settings.conventions.memoryExport = true := by
    rw [Wasm.Interface.requireMemory, Wasm.Module.interface_exportsMemory]
    split <;> simp_all
  have checked : check settings registry guest = .ok () ↔
      guest.interface.requireMemory settings.conventions.memoryExport = .ok () ∧
        registry.resolveImports guest.interface.imports
          (if settings.wasi then [SystemInterface.space] else []) = .ok () :=
    except_bind_ok_iff.trans ⟨fun ⟨_, both⟩ => both, fun both => ⟨(), both⟩⟩
  -- The one says it of the imports and the other of their shapes in the interface.
  rw [checked, exports, Registry.resolveImports_ok_iff]
  refine and_congr_right fun _ => ⟨fun resolved item member outside => ?_,
    fun resolved shape member unlinked => ?_⟩
  · refine resolved item.shape (List.mem_map_of_mem member) ?_
    cases on : settings.wasi with
    | true => simpa [Wasm.Import.shape] using outside on
    | false => simp
  · obtain ⟨item, imported, rfl⟩ := List.mem_map.mp member
    refine resolved item imported fun on => ?_
    simpa [on, Wasm.Import.shape] using unlinked

/-- A guest links exactly if the checks pass, its imports are bound and its memory is within limits. -/
theorem link_ok_iff {settings : Settings} {registry : Registry} {guest : Wasm.Module}
    {linked : Linked} :
    link settings registry guest = .ok linked ↔
      check settings registry guest = .ok () ∧
      (∃ offer, offered settings registry = .ok offer ∧
        guest.imports.mapM (bindImport offer) = .ok linked.hosts) ∧
      memoryPages settings guest = .ok (linked.minPages, linked.maxPages) ∧
      linked.guest = guest ∧ linked.conventions = settings.conventions := by
  -- Linking takes these steps in order, and what it gives is put together from them.
  unfold link
  simp only [except_bind_ok_iff, mapError_ok_iff]
  constructor
  · rintro ⟨_, checked, offer, offers, hosts, bound, ⟨least, most⟩, sized, given⟩
    cases given
    exact ⟨checked, ⟨offer, offers, bound⟩, sized, rfl, rfl⟩
  · rintro ⟨checked, ⟨offer, offers, bound⟩, sized, rfl, named⟩
    exact ⟨(), checked, offer, offers, _, bound, _, sized, by rw [← named]; rfl⟩

/-- A host function that is found is one of those bound. -/
theorem mem_of_lookup {hosts : List (String × HostFunction)} {id : String} {host : HostFunction}
    (found : hosts.lookup id = some host) : (id, host) ∈ hosts := by
  obtain ⟨before, after, rfl, _⟩ := List.lookup_eq_some_iff.mp found
  exact List.mem_append_right _ List.mem_cons_self

section

variable {settings : Settings} {registry : Registry} {guest : Wasm.Module} {linked : Linked}

/-- A guest that links exports the memory that the conventions name, and keeps the conventions. -/
theorem link_memory (links : link settings registry guest = .ok linked) :
    linked.guest.exportsMemory linked.conventions.memoryExport = true := by
  obtain ⟨checked, _, _, rfl, named⟩ := link_ok_iff.mp links
  rw [named]
  exact (check_ok_iff.mp checked).1

/-- A function that a linked guest imports is a registered one or one of the system interface. -/
theorem link_host_mem (links : link settings registry guest = .ok linked) {id : String}
    {host : HostFunction} (bound : linked.hosts.lookup id = some host) :
    host ∈ registry.functions ∨ settings.wasi = true ∧ host ∈ SystemInterface.functions := by
  -- Every entry was bound to an import, and so found among what is offered.
  obtain ⟨_, ⟨offer, offers, imported⟩, _⟩ := link_ok_iff.mp links
  refine offered_mem offers host ?_
  obtain ⟨item, _, given⟩ := bindImports_mem imported (mem_of_lookup bound)
  exact (Registry.get?_names (bindImport_ok_iff.mp given).1).1

/-- A linked guest declares, for every function that it imports, the type of the host function that
it is bound to. -/
theorem link_importType (links : link settings registry guest = .ok linked) (id : String) :
    linked.guest.importType? id = (linked.hosts.lookup id).map (·.signature.funcType) := by
  obtain ⟨_, ⟨offer, _, imported⟩, _, rfl, _⟩ := link_ok_iff.mp links
  have bound := bindImports_ok_iff.mp imported
  -- Imports and entries stand in the same order, so the first of either under a name match.
  unfold Wasm.Module.importType?
  generalize linked.guest.imports = imports, linked.hosts = hosts at bound ⊢
  induction bound with
  | nil => rfl
  | @cons item entry rest entries first _ ih =>
    obtain ⟨found, asked⟩ := bindImport_ok_iff.mp first
    obtain ⟨own, host⟩ := entry
    obtain ⟨space, name, kind⟩ := item
    cases asked
    rw [List.findSome?_cons, List.lookup_cons]
    by_cases same : own = id
    · simp [same]
    · -- Neither list finds the identity here, so both go on.
      have here : (own == id) = false := beq_false_of_ne same
      have there : (id == own) = false := beq_false_of_ne (Ne.symm same)
      simp only [here, there, Bool.false_eq_true, if_false]
      exact ih

end

end Linked

end GuestBoundary
