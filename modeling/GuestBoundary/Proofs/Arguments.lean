import GuestBoundary.Instance
import GuestBoundary.Proofs.Linking

/-! The arguments of a call by name: when they are accepted, what the function is entered with, and how a
call is turned down. -/

namespace GuestBoundary

/-- The faults of a call that is turned down before its function is entered. -/
def Fault.Rejects : Fault → Prop
  | .exportNotFound _ => True
  | .arityMismatch .. => True
  | .signatureMismatch .. => True
  | _ => False

/-- Signatures are determined by their function types. -/
theorem Signature.funcType_injective {first second : Signature}
    (same : first.funcType = second.funcType) : first = second := by
  -- A type tells which signature it came from.
  have known := congrArg Wasm.FuncType.signature? same
  rw [Wasm.FuncType.signature?_funcType, Wasm.FuncType.signature?_funcType] at known
  exact Option.some.inj known

/-- An exported function that a context shows has the type that the guest gives it. -/
theorem Context.function?_type {context : Context} {name id : String} {type : Wasm.FuncType}
    (found : context.function? name = some (id, type)) :
    context.linked.guest.exportedFunction? name = some id ∧
      context.linked.guest.type? id = some type := by
  -- The name is looked up once the exports are seen, and the type under what the name shows.
  obtain ⟨_, _, found⟩ := Option.bind_eq_some_iff.mp found
  obtain ⟨own, exported, found⟩ := Option.bind_eq_some_iff.mp found
  obtain ⟨given, typed, same⟩ := Option.bind_eq_some_iff.mp found
  cases same
  exact ⟨exported, typed⟩

namespace Context

/-- As many arguments as parameters all fit exactly if no first one does not. -/
theorem firstUnfit?_eq_none_iff {arguments : List Value} {types : List NumType} (index : Nat)
    (same : arguments.length = types.length) :
    firstUnfit? index arguments types = none ↔
      List.Forall₂ (fun value type => value.fits type = true) arguments types := by
  induction arguments generalizing index types with
  | nil =>
    cases types with
    | nil => exact ⟨fun _ => .nil, fun _ => rfl⟩
    | cons => cases same
  | cons value values ih =>
    cases types with
    | nil => cases same
    | cons type types =>
      -- The first argument fits, and the index is only there to be named by the fault.
      rw [firstUnfit?, List.forall₂_cons]
      split
      · rename_i fit
        rw [ih (index + 1) (Nat.succ.inj same)]
        exact ⟨fun others => ⟨fit, others⟩, fun both => both.2⟩
      · rename_i unfit
        exact ⟨nofun, fun both => absurd both.1 unfit⟩

/-- Arguments are accepted exactly if each fits its parameter, and then each is coerced to its type. -/
theorem checkArguments_ok_iff {name : String} {signature : Signature}
    {arguments passed : List Value} :
    checkArguments name signature arguments = .ok passed ↔
      List.Forall₂ (fun value type => value.fits type = true) arguments signature.params ∧
        passed = List.zipWith Value.coerce arguments signature.params := by
  unfold checkArguments
  split
  · -- A list of another length fits in no way.
    rename_i differ
    exact ⟨nofun, fun both => absurd both.1.length_eq differ⟩
  · rename_i same
    rw [← firstUnfit?_eq_none_iff 0 (not_not.mp same)]
    split
    · rename_i unfit
      simp [unfit]
    · rename_i fit
      simp [fit, eq_comm]

/-- Accepted arguments arrive with the declared types, and with the very bits that were passed. -/
theorem checkArguments_passed {name : String} {signature : Signature}
    {arguments passed : List Value} (checked : checkArguments name signature arguments = .ok passed) :
    passed.map Value.type = signature.params ∧
      passed.map Value.bits = arguments.map Value.bits := by
  obtain ⟨fit, rfl⟩ := checkArguments_ok_iff.mp checked
  -- Each argument is coerced by itself, and only when it fits.
  clear checked
  generalize signature.params = types at fit ⊢
  induction fit with
  | nil => exact ⟨rfl, rfl⟩
  | cons first _ ih =>
    simp only [List.zipWith_cons_cons, List.map_cons, Value.type_coerce, Value.bits_coerce first]
    exact ⟨congrArg _ ih.1, congrArg _ ih.2⟩

/-- Arguments are turned down for their number or for one that does not fit. -/
theorem checkArguments_rejects {name : String} {signature : Signature} {arguments : List Value}
    {fault : Fault} (failed : checkArguments name signature arguments = .error fault) :
    fault.Rejects := by
  -- The number is checked before any of them is.
  unfold checkArguments at failed
  split at failed
  · cases failed
    trivial
  · split at failed
    · cases failed
      trivial
    · cases failed

variable {context : Context} {name id : String} {arguments passed : List Value}

/-- A call passes all checks exactly if its name shows a function over integers alone whose signature
accepts the arguments. -/
theorem prepare_ok_iff :
    context.prepare name arguments = .ok (id, passed) ↔
      ∃ signature : Signature, context.function? name = some (id, signature.funcType) ∧
        checkArguments name signature arguments = .ok passed := by
  -- The name comes first, then the type under it, and the arguments last.
  unfold prepare
  constructor
  · intro prepared
    split at prepared
    · cases prepared
    · rename_i own type found
      split at prepared
      · cases prepared
      · rename_i signature known
        obtain ⟨coerced, checked, same⟩ := except_bind_ok_iff.mp prepared
        cases same
        exact ⟨signature, by rw [found, Wasm.FuncType.signature?_eq_some_iff.mp known], checked⟩
  · rintro ⟨signature, found, checked⟩
    simp only [found, Wasm.FuncType.signature?_funcType, checked]
    rfl

/-- A call that does not pass is turned down for its name, its type or its arguments. -/
theorem prepare_rejects {fault : Fault} (failed : context.prepare name arguments = .error fault) :
    fault.Rejects := by
  -- In the order of the checks: no such export, no signature, or no such arguments.
  unfold prepare at failed
  split at failed
  · cases failed
    trivial
  · split at failed
    · cases failed
      trivial
    · rename_i signature _
      cases checked : checkArguments name signature arguments with
      | error refused =>
        rw [checked] at failed
        cases failed
        exact checkArguments_rejects checked
      | ok coerced =>
        rw [checked] at failed
        cases failed

end Context

end GuestBoundary
