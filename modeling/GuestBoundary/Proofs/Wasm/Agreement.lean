import GuestBoundary.Proofs.Wasm.Matching

/-! What running code depends on: of the functions that it calls only what they do with operands of
their own types, and what it hands on are values of the types declared. -/

namespace GuestBoundary

namespace Wasm

/-- The operands of a call are the newest values on the stack, if they have the declared types. -/
theorem takeOperands_eq_some_iff {params : List NumType} {stack operands rest : List Value} :
    takeOperands params stack = some (operands, rest) ↔
      stack = operands.reverse ++ rest ∧ operands.map Value.type = params := by
  simp only [takeOperands]
  constructor
  · intro taken
    split at taken
    · rename_i typed
      cases taken
      exact ⟨by rw [List.reverse_reverse, List.take_append_drop], typed⟩
    · cases taken
  · rintro ⟨rfl, typed⟩
    -- There are as many operands as types, so they are what is taken from the stack.
    have count : params.length = operands.reverse.length := by
      rw [← typed, List.length_map, List.length_reverse]
    rw [count, List.take_left, List.drop_left, List.reverse_reverse, if_pos typed]

/-- Results are taken only with the declared types. -/
theorem takeResults_types {types : List ValType} {stack results : List Value} {store left : Store}
    (taken : takeResults types stack store = some (.ok results, left)) :
    results.map (.number ·.type) = types := by
  simp only [takeResults] at taken
  split at taken
  · rename_i typed
    cases taken
    exact typed
  · cases taken

/-- A function of a guest gives results of the types that it declares. -/
theorem Function.run_types {surroundings : Surroundings} {function : Function}
    {arguments results : List Value} {store left : Store}
    (ran : function.run surroundings arguments store = some (.ok results, left)) :
    results.map (.number ·.type) = function.type.results := by
  -- However control leaves the body, results are taken from its stack last.
  rw [Function.run, Run.bind_apply] at ran
  split at ran
  · cases ran
  · -- The charge is paid, so the body has run.
    rw [Run.bind_apply] at ran
    split at ran
    · cases ran
    · -- It ended at its last instruction, by a branch out of it, or by a return.
      split at ran
      · exact takeResults_types ran
      · exact takeResults_types ran
      · exact takeResults_types ran
      · cases ran
    · cases ran
  · cases ran

/-- Two surroundings differ at most in what functions do with operands that no code gives them. -/
structure Surroundings.Agree (first second : Surroundings) : Prop where
  call : ∀ function frame, callFunction first function frame = callFunction second function frame
  maxPages : first.maxPages = second.maxPages
  patience : first.patience = second.patience

section

variable {first second : Surroundings}

/-- A function of a guest does the same in surroundings that agree. -/
theorem Function.run_congr (agree : first.Agree second) (function : Function)
    (arguments : List Value) : function.run first arguments = function.run second arguments := by
  -- Surroundings that agree match, whatever their functions fail with.
  have calls : first.Match Eq second :=
    ⟨fun function frame => Run.matches_eq_iff.mpr (agree.call function frame), agree.maxPages,
      agree.patience⟩
  exact Run.matches_eq_iff.mp (function.run_matches ⟨fun _ => rfl, rfl⟩ calls arguments)

end

end Wasm

end GuestBoundary
