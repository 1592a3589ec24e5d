import GuestBoundary.Capability
import GuestBoundary.Proofs.Linking

/-! The check of imports is exact: what it passes is what a registry has to offer, what it fails with is
what the first import comes to that is not, and it looks at nothing else. -/

namespace GuestBoundary

namespace Registry

/-- A function is registered under the names of an import, and the import is a function of its very
signature. -/
def Satisfies (registry : Registry) (item : Wasm.ImportShape) : Prop :=
  ∃ host, registry.get? item.space item.name = some host ∧
    item.kind = .function (some host.signature)

/-- What an import is turned down for. -/
inductive Offends (registry : Registry) (item : Wasm.ImportShape) : Fault → Prop
  /-- It is no function. -/
  | other (kind : ∀ signature, item.kind ≠ .function signature) :
      Offends registry item (.unresolvedImport item.space item.name)
  /-- No function is registered under both its names, whatever its type is. -/
  | unregistered
      (absent : ∀ host ∈ registry.functions, ¬ (host.space = item.space ∧ host.name = item.name)) :
      Offends registry item (.unresolvedImport item.space item.name)
  /-- There is a function under its names, but its own type is not over integers alone. -/
  | foreign {host : HostFunction} (found : registry.get? item.space item.name = some host)
      (asked : item.kind = .function none) :
      Offends registry item
        (.signatureMismatch (qualified item.space item.name) .importNotInteger)
  /-- There is a function under its names, of another signature. -/
  | differs {host : HostFunction} {wanted : Signature}
      (found : registry.get? item.space item.name = some host)
      (asked : item.kind = .function (some wanted)) (differ : wanted ≠ host.signature) :
      Offends registry item
        (.signatureMismatch (qualified item.space item.name) (.importDiffers wanted host.signature))

variable {registry : Registry} {item : Wasm.ImportShape} {imports : List Wasm.ImportShape}
  {linked : List String} {fault : Fault}

/-- An import fails its check exactly with what it is turned down for. -/
theorem resolveImport_error_iff :
    registry.resolveImport item = .error fault ↔ registry.Offends item fault := by
  unfold resolveImport
  constructor
  · intro failed
    split at failed
    · -- A signature is asked for and one is registered, so it is the comparison that has failed.
      rename_i wanted host asked found
      split at failed
      · cases failed
      · rename_i differ
        cases failed
        exact .differs found asked differ
    · -- A function is registered, but what is asked for has no signature.
      rename_i host asked found
      cases failed
      exact .foreign found asked
    · -- What is left is no function, or one that is not registered.
      rename_i unmatched unknown
      cases failed
      cases found : registry.get? item.space item.name with
      | none => exact .unregistered (get?_eq_none_iff.mp found)
      | some host =>
        -- A function that is registered has been dealt with above, whatever its signature.
        refine .other fun signature asked => ?_
        cases signature with
        | none => exact unknown host asked found
        | some wanted => exact unmatched wanted host asked found
  · -- Each reason leads to the branch that it has its fault from.
    intro offends
    cases offends with
    | other kind =>
      cases asked : item.kind with
      | function signature => exact absurd asked (kind signature)
      | _ => cases registry.get? item.space item.name <;> rfl
    | unregistered absent =>
      rw [get?_eq_none_iff.mpr absent]
      cases item.kind with
      | function signature => cases signature <;> rfl
      | _ => rfl
    | foreign found asked => simp only [found, asked]
    | differs found asked differ => simp only [found, asked, if_neg differ]

/-- Imports fail their check for the first of them that is turned down, those of linked namespaces apart. -/
theorem resolveImports_error_iff :
    registry.resolveImports imports linked = .error fault ↔
      ∃ before item after, imports = before ++ item :: after ∧
        (∀ earlier ∈ before, earlier.space ∉ linked → registry.Satisfies earlier) ∧
        item.space ∉ linked ∧ registry.Offends item fault := by
  rw [resolveImports, forM_error_iff]
  refine exists_congr fun before => exists_congr fun item => exists_congr fun after =>
    and_congr_right fun _ => and_congr (forall₂_congr fun earlier _ => ?_) ?_
  · -- What comes before passes: it is linked, or satisfied.
    by_cases linkedTo : earlier.space ∈ linked
    · simp [linkedTo]
    · simp [linkedTo, resolveImport_ok_iff, Satisfies]
  · by_cases linkedTo : item.space ∈ linked
    · simp [linkedTo]
    · simp [linkedTo, resolveImport_error_iff]

/-- Registries that have the same signatures for the imports that are checked agree on them. -/
theorem resolveImports_congr {first second : Registry}
    (agree : ∀ item ∈ imports, item.space ∉ linked →
      (first.get? item.space item.name).map (·.signature) =
        (second.get? item.space item.name).map (·.signature)) :
    first.resolveImports imports linked = second.resolveImports imports linked := by
  rw [resolveImports_filter, resolveImports_filter]
  -- What is left has been checked by both in the same way, one import after another.
  have same : ∀ item ∈ imports.filter fun item => !linked.contains item.space,
      first.resolveImport item = second.resolveImport item := by
    intro item member
    simp only [List.mem_filter, Bool.not_eq_true', List.contains_eq_mem, decide_eq_false_iff_not]
      at member
    exact resolveImport_congr (agree item member.1 member.2)
  generalize imports.filter _ = checked at same ⊢
  induction checked with
  | nil => rfl
  | cons item rest ih =>
    obtain ⟨head, tail⟩ := List.forall_mem_cons.mp same
    change (first.resolveImport item >>= fun _ => rest.forM first.resolveImport) = _
    rw [head, ih tail]
    rfl

/--
The check of imports is exact.

For every registry, every list of imports and every list of linked namespaces, the check passes exactly if
each import whose namespace is not linked is a function of the very signature of the function that is
registered under its namespace and name. Otherwise it fails with what the first import is turned down for
that is not: as unresolved if it is no function or nothing is registered under both its names, and else as
a mismatch of signatures. The outcome is that of every registry that has functions of the same signatures
for these imports, whatever else it has, and that of every list in which the imports from namespaces that
are not linked are the same.
-/
theorem resolveImports_exact (registry : Registry) (imports : List Wasm.ImportShape)
    (linked : List String) :
    (registry.resolveImports imports linked = .ok () ↔
      ∀ item ∈ imports, item.space ∉ linked → registry.Satisfies item) ∧
    (∀ fault, registry.resolveImports imports linked = .error fault ↔
      ∃ before item after, imports = before ++ item :: after ∧
        (∀ earlier ∈ before, earlier.space ∉ linked → registry.Satisfies earlier) ∧
        item.space ∉ linked ∧ registry.Offends item fault) ∧
    (∀ other : Registry,
      (∀ item ∈ imports, item.space ∉ linked →
        (other.get? item.space item.name).map (·.signature) =
          (registry.get? item.space item.name).map (·.signature)) →
      other.resolveImports imports linked = registry.resolveImports imports linked) ∧
    ∀ others : List Wasm.ImportShape,
      (others.filter fun item => item.space ∉ linked) =
        (imports.filter fun item => item.space ∉ linked) →
      registry.resolveImports others linked = registry.resolveImports imports linked := by
  refine ⟨?_, fun fault => resolveImports_error_iff, fun other agree => resolveImports_congr agree,
    fun others same => ?_⟩
  · rw [resolveImports_ok_iff]
    exact forall₃_congr fun item _ _ => resolveImport_ok_iff
  · -- The check is that of the imports which are left when the linked ones are taken out.
    rw [resolveImports_filter, resolveImports_filter]
    have kept : (others.filter fun item => !linked.contains item.space) =
        imports.filter fun item => !linked.contains item.space := by
      simpa using same
    rw [kept]

/-- An import of a function that another namespace has is unresolved, although its type is foreign too,
and what comes after it does not matter. The memory from a linked namespace is passed over, and so it is
where it is left out or the registry has more functions. -/
theorem resolveImports_exact_elsewhere :
    let registry := (empty.registerAll [Capability.logString "env", Capability.logWord "other"]).1
    let larger := (registry.registerAll [Capability.printString "env"]).1
    let checked : List Wasm.ImportShape := [⟨"env", "host_log_string", .function (some (.words 2 0))⟩,
      ⟨"env", "host_log_uint32", .function none⟩, ⟨"env", "host_log_string", .function none⟩]
    let imports := ⟨"system", "clock", .memory⟩ :: checked
    registry.resolveImports imports ["system"] =
        .error (.unresolvedImport "env" "host_log_uint32") ∧
      registry.resolveImports [⟨"env", "host_log_string", .function none⟩] ["system"] =
        .error (.signatureMismatch "env::host_log_string" .importNotInteger) ∧
      larger.resolveImports imports ["system"] = registry.resolveImports imports ["system"] ∧
      registry.resolveImports checked ["system"] = registry.resolveImports imports ["system"] := by
  intro registry larger checked imports
  obtain ⟨-, fails, agrees, passes⟩ := resolveImports_exact registry imports ["system"]
  refine ⟨(fails _).mpr ⟨imports.take 2, _, _, rfl, ?_, by decide, .unregistered ?_⟩,
    ((resolveImports_exact registry _ _).2.1 _).mpr ⟨[], _, [], rfl, nofun, by decide, ?_⟩,
    agrees larger ?_, passes checked (by decide)⟩
  · -- The first import is linked, and the second one is there with its signature.
    intro earlier member unlinked
    rcases List.mem_pair.mp member with rfl | rfl
    · exact absurd List.mem_cons_self unlinked
    · exact ⟨Capability.logString "env", rfl, rfl⟩
  · exact get?_eq_none_iff.mp rfl
  · exact .foreign rfl rfl
  · -- No import is of the function that is new.
    intro item member _
    simp only [imports, checked, List.mem_cons, List.not_mem_nil, or_false] at member
    rcases member with rfl | rfl | rfl | rfl <;> rfl

end Registry

end GuestBoundary
