import GuestBoundary.Wasm.Source

/-! What sources can be read, and what a module without defects is like. -/

namespace GuestBoundary

namespace Wasm

/-- A source is read exactly if it holds a module and no defect is found in that. -/
theorem Source.read_ok_iff {source : Source} {code : Module} :
    source.read = .ok code ↔ source.module? = some code ∧ code.defect? = none := by
  -- The source is decoded first, and what it holds is checked then.
  unfold read
  constructor
  · intro given
    split at given
    · cases given
    · rename_i held
      split at given
      · cases given
      · rename_i sound
        cases given
        exact ⟨held, sound⟩
  · rintro ⟨held, sound⟩
    simp only [held, sound]

/-- A source that cannot be read is not a valid module. -/
theorem Source.read_error {source : Source} {fault : Fault} (failed : source.read = .error fault) :
    ∃ why, fault = .invalidModule why := by
  -- Either nothing could be decoded, or the first defect is named.
  unfold read at failed
  split at failed
  · cases failed
    exact ⟨_, rfl⟩
  · split at failed
    · cases failed
      exact ⟨_, rfl⟩
    · cases failed

/-- Everything that a source is checked for before its module can be used. -/
structure Module.Valid (guest : Module) : Prop where
  exportNames : repeated? (guest.exports.map (·.name)) = none
  functionIds : repeated? guest.functionIds = none
  globalIds : repeated? (guest.globals.map (·.id)) = none
  memories : ∀ limits ∈ guest.allMemories, limits.fitMemory = true
  tables : ∀ limits ∈ guest.allTables, limits.fitTable = true
  /-- Every export shows an item that is there. -/
  items : ∀ item ∈ guest.exports, guest.hasItem item.kind = true
  segments : guest.segments = [] ∨ guest.allMemories ≠ []
  /-- A start function neither takes nor gives values. -/
  start : ∀ id, guest.start = some id → guest.type? id = some ⟨[], []⟩
  bodies : ∀ function ∈ guest.functions, guest.wellTyped function = true

/-- A module is valid exactly if no defect is found in it. -/
theorem Module.defect?_eq_none_iff {guest : Module} : guest.defect? = none ↔ guest.Valid := by
  -- The first defect is none exactly if there is none of each kind.
  simp only [defect?, Option.orElse_eq_orElse, Option.orElse_eq_or, Option.or_eq_none_iff,
    Option.map_eq_none_iff, List.find?_eq_none, Option.filter_eq_none_iff, canStart]
  constructor
  · rintro ⟨exports, functions, globals, limits, items, segments, start, bodies⟩
    simp only [ite_eq_left_iff, reduceCtorEq, imp_false, Decidable.not_not, Bool.and_eq_true,
      List.all_eq_true, Bool.or_eq_true, List.isEmpty_iff] at limits segments
    exact {
      exportNames := exports
      functionIds := functions
      globalIds := globals
      memories := limits.1
      tables := limits.2
      items := by simpa using items
      segments := segments.imp_right (by simp)
      start := by simpa using start
      bodies := by simpa using bodies }
  · rintro ⟨exports, functions, globals, memories, tables, items, segments, start, bodies⟩
    refine ⟨exports, functions, globals, ?_, ?_, ?_, ?_, ?_⟩
    all_goals simp_all

end Wasm

end GuestBoundary
