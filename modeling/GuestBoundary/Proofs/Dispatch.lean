import GuestBoundary.Proofs.Entries
import GuestBoundary.Proofs.Interface
import GuestBoundary.Proofs.Sample

/-! Calls by name, decided: a call is turned down for the first of four reasons, and then nothing happens at
all, or it enters its function once, with the numbers it was given in the types that are declared. -/

namespace GuestBoundary

/-- The argument at an index has twice the width of the parameter there. -/
def TooWide (arguments : List Value) (types : List NumType) (index : Nat) : Prop :=
  (∃ word, arguments[index]? = some (.i64 word)) ∧ types[index]? = some .i32

/-- Only a long value for a short parameter does not fit. -/
theorem tooWide_zero {value : Value} {type : NumType} {values : List Value} {types : List NumType} :
    TooWide (value :: values) (type :: types) 0 ↔ ¬ value.fits type = true := by
  cases value <;> cases type <;> simp [TooWide, Value.fits]

theorem tooWide_succ {value : Value} {type : NumType} {values : List Value} {types : List NumType}
    {index : Nat} :
    TooWide (value :: values) (type :: types) (index + 1) ↔ TooWide values types index := by
  simp [TooWide]

namespace Context

/-- The context shows no function of the guest under a name: it shows no exports, or none of them is a
function of that name. -/
def Lacks (context : Context) (name : String) : Prop :=
  context.visible = true → ∀ id, ⟨name, .function id⟩ ∉ context.linked.guest.exports

/-- The context shows a function of the guest under a name, and this is its type. -/
def Shows (context : Context) (name id : String) (type : Wasm.FuncType) : Prop :=
  context.visible = true ∧ ⟨name, .function id⟩ ∈ context.linked.guest.exports ∧
    context.linked.guest.type? id = some type

/-- What a call by name is turned down for. Each reason is looked for only where those before it do not
hold. -/
inductive TurnsDown (context : Context) (name : String) (arguments : List Value) : Fault → Prop
  | missing (lacks : context.Lacks name) : TurnsDown context name arguments (.exportNotFound name)
  /-- The function takes or gives what is no integer. -/
  | foreign {id : String} {type : Wasm.FuncType} (shows : context.Shows name id type)
      (foreign : type.Foreign) :
      TurnsDown context name arguments (.signatureMismatch name (.exportNotInteger type))
  /-- The function takes another number of arguments. -/
  | arity {id : String} {signature : Signature} (shows : context.Shows name id signature.funcType)
      (differ : arguments.length ≠ signature.params.length) :
      TurnsDown context name arguments
        (.arityMismatch name signature.params.length arguments.length)
  /-- An argument is too wide, and all before it fit. -/
  | unfit {id : String} {signature : Signature} {index : Nat}
      (shows : context.Shows name id signature.funcType)
      (same : arguments.length = signature.params.length)
      (wide : TooWide arguments signature.params index)
      (first : ∀ earlier < index, ¬ TooWide arguments signature.params earlier) :
      TurnsDown context name arguments (.signatureMismatch name (.argument index .i64 .i32))

/-- The first argument that does not fit is the one that is too wide with none before it. -/
theorem firstUnfit?_eq_some_iff {start : Nat} {arguments : List Value} {types : List NumType}
    {why : Mismatch} :
    firstUnfit? start arguments types = some why ↔
      ∃ index, why = .argument (start + index) .i64 .i32 ∧ TooWide arguments types index ∧
        ∀ earlier < index, ¬ TooWide arguments types earlier := by
  induction arguments generalizing start types with
  | nil => simp [firstUnfit?, TooWide]
  | cons value values ih =>
    cases types with
    | nil => simp [firstUnfit?, TooWide]
    | cons type types =>
      rw [firstUnfit?]
      split
      · -- This argument fits, so an index of the rest is one more here.
        rename_i fit
        rw [ih]
        constructor
        · rintro ⟨index, rfl, wide, first⟩
          refine ⟨index + 1, by congr 1; omega, tooWide_succ.mpr wide, fun earlier before => ?_⟩
          cases earlier with
          | zero => exact fun unfit => tooWide_zero.mp unfit fit
          | succ earlier => exact fun unfit => first earlier (by omega) (tooWide_succ.mp unfit)
        · rintro ⟨_ | index, rfl, wide, first⟩
          · exact absurd fit (tooWide_zero.mp wide)
          · refine ⟨index, by congr 1; omega, tooWide_succ.mp wide, fun earlier before => ?_⟩
            exact fun unfit => first (earlier + 1) (by omega) (tooWide_succ.mpr unfit)
      · -- This argument is the first, and its types are the only two that do not agree.
        rename_i unfit
        have wide : TooWide (value :: values) (type :: types) 0 := tooWide_zero.mpr unfit
        have kinds : value.type = .i64 ∧ type = .i32 := by
          cases value <;> cases type <;> simp_all [Value.fits, Value.type]
        rw [kinds.1, kinds.2, Option.some.injEq]
        constructor
        · rintro rfl
          exact ⟨0, rfl, kinds.2 ▸ wide, fun earlier before => absurd before (Nat.not_lt_zero earlier)⟩
        · rintro ⟨_ | index, rfl, _, first⟩
          · rfl
          · exact absurd (kinds.2 ▸ wide) (first 0 (Nat.succ_pos _))

/-- Arguments are turned down for their number, and otherwise for the first one that is too wide. -/
theorem checkArguments_error_iff {name : String} {signature : Signature} {arguments : List Value}
    {fault : Fault} :
    checkArguments name signature arguments = .error fault ↔
      (arguments.length ≠ signature.params.length ∧
        fault = .arityMismatch name signature.params.length arguments.length) ∨
      (arguments.length = signature.params.length ∧
        ∃ index, fault = .signatureMismatch name (.argument index .i64 .i32) ∧
          TooWide arguments signature.params index ∧
          ∀ earlier < index, ¬ TooWide arguments signature.params earlier) := by
  -- The number is looked at first, and the arguments only where it is right.
  unfold checkArguments Signature.arity
  split
  · rename_i differ
    simp [differ, eq_comm]
  · rename_i same
    have same := not_not.mp same
    constructor
    · intro failed
      split at failed
      · rename_i why found
        cases failed
        obtain ⟨index, rfl, wide, first⟩ := firstUnfit?_eq_some_iff.mp found
        exact .inr ⟨same, index, by rw [Nat.zero_add], wide, first⟩
      · cases failed
    · rintro (⟨differ, _⟩ | ⟨_, index, rfl, wide, first⟩)
      · exact absurd same differ
      · have found : firstUnfit? 0 arguments signature.params = some (.argument index .i64 .i32) :=
          firstUnfit?_eq_some_iff.mpr ⟨index, by rw [Nat.zero_add], wide, first⟩
        rw [found]

section

variable {context : Context} (valid : context.linked.guest.Valid) {name id : String}
  {arguments passed : List Value}
include valid

/-- In a valid guest, what is found under a name is what the context shows there. -/
theorem function?_eq_some_iff_shows {type : Wasm.FuncType} :
    context.function? name = some (id, type) ↔ context.Shows name id type := by
  constructor
  · intro found
    have seen : context.visible = true := by
      cases visible : context.visible with
      | true => rfl
      | false => simp [function?, visible] at found
    obtain ⟨exported, typed⟩ := function?_type found
    exact ⟨seen, valid.exportedFunction?_eq_some_iff.mp exported, typed⟩
  · rintro ⟨seen, member, typed⟩
    simp [function?, seen, guard, valid.exportedFunction?_eq_some_iff.mpr member, typed]

/-- In a valid guest, nothing is found exactly where the context shows no function: an export always
shows something that is there. -/
theorem function?_eq_none_iff_lacks : context.function? name = none ↔ context.Lacks name := by
  constructor
  · -- An export of a function has a type, so it would have been found.
    intro absent seen id member
    obtain ⟨type, typed⟩ := Option.isSome_iff_exists.mp (valid.items _ member)
    have found := (function?_eq_some_iff_shows valid).mpr ⟨seen, member, typed⟩
    rw [absent] at found
    cases found
  · intro lacks
    cases found : context.function? name with
    | none => rfl
    | some function =>
      obtain ⟨seen, member, _⟩ := (function?_eq_some_iff_shows valid).mp found
      exact absurd member (lacks seen _)

/-- The checks of a call fail for the first reason that there is, and for no other. -/
theorem prepare_error_iff {fault : Fault} :
    context.prepare name arguments = .error fault ↔ context.TurnsDown name arguments fault := by
  constructor
  · -- The checks are gone through in their order, each with what those before it have found.
    intro failed
    unfold prepare at failed
    split at failed
    · rename_i absent
      cases failed
      exact .missing ((function?_eq_none_iff_lacks valid).mp absent)
    · rename_i id type found
      have shows := (function?_eq_some_iff_shows valid).mp found
      split at failed
      · rename_i unknown
        cases failed
        exact .foreign shows (Wasm.FuncType.signature?_eq_none_iff.mp unknown)
      · rename_i signature known
        obtain rfl := Wasm.FuncType.signature?_eq_some_iff.mp known
        have refused : checkArguments name signature arguments = .error fault := by
          cases checked : checkArguments name signature arguments with
          | error refused =>
            rw [checked] at failed
            cases failed
            rfl
          | ok coerced =>
            rw [checked] at failed
            cases failed
        rcases checkArguments_error_iff.mp refused with
          ⟨differ, rfl⟩ | ⟨same, index, rfl, wide, first⟩
        · exact .arity shows differ
        · exact .unfit shows same wide first
  · -- Each reason stands with what makes all checks before it pass.
    intro turned
    unfold prepare
    cases turned with
    | missing lacks => rw [(function?_eq_none_iff_lacks valid).mpr lacks]
    | foreign shows foreign =>
      simp only [(function?_eq_some_iff_shows valid).mpr shows,
        Wasm.FuncType.signature?_eq_none_iff.mpr foreign]
    | arity shows differ =>
      simp only [(function?_eq_some_iff_shows valid).mpr shows, Wasm.FuncType.signature?_funcType,
        checkArguments_error_iff.mpr (.inl ⟨differ, rfl⟩)]
      rfl
    | unfit shows same wide first =>
      simp only [(function?_eq_some_iff_shows valid).mpr shows, Wasm.FuncType.signature?_funcType,
        checkArguments_error_iff.mpr (.inr ⟨same, _, rfl, wide, first⟩)]
      rfl

/-- A call that passes its checks enters the function under the name, with the numbers that were given as
values of the types that it declares. -/
theorem prepare_enters (prepared : context.prepare name arguments = .ok (id, passed)) :
    ∃ signature : Signature, context.Shows name id signature.funcType ∧
      passed.map Value.type = signature.params ∧
      passed.map (·.bits.toNat) = arguments.map (·.bits.toNat) := by
  -- Only arguments that fit are coerced, and those lose nothing.
  obtain ⟨signature, found, checked⟩ := prepare_ok_iff.mp prepared
  obtain ⟨types, bits⟩ := checkArguments_passed checked
  refine ⟨signature, (function?_eq_some_iff_shows valid).mp found, types, ?_⟩
  simpa [Function.comp_def] using congrArg (List.map UInt64.toNat) bits

/-- A call that is turned down gives its fault whatever the functions of the instance would do, and enters
none of them. -/
theorem invoke_turned {fault : Fault} (turned : context.TurnsDown name arguments fault)
    (store : Store) :
    context.entries (Program.invoke name arguments) store = [] ∧
      ∀ call, ({ context with call } : Context).perform (Program.invoke name arguments) store =
        some (.error fault, store) := by
  have failed := (prepare_error_iff valid).mpr turned
  refine ⟨by rw [entries_invoke, failed]; rfl, fun call => ?_⟩
  -- The checks do not look at what can be called.
  have still : ({ context with call } : Context).prepare name arguments = .error fault := failed
  rw [perform_invoke, invoke, still]

/-- A call that nothing turns down enters its function once, and ends as that does. -/
theorem invoke_entered (welcome : ∀ fault, ¬ context.TurnsDown name arguments fault)
    (store : Store) :
    ∃ (id : String) (signature : Signature) (passed : List Value),
      context.Shows name id signature.funcType ∧
      passed.map Value.type = signature.params ∧
      passed.map (·.bits.toNat) = arguments.map (·.bits.toNat) ∧
      context.entries (Program.invoke name arguments) store = [(id, passed)] ∧
      context.perform (Program.invoke name arguments) store =
        (context.call id passed).surface store := by
  -- Where the checks do not fail, they lead to an entry.
  cases prepared : context.prepare name arguments with
  | error fault => exact absurd ((prepare_error_iff valid).mp prepared) (welcome fault)
  | ok entry =>
    obtain ⟨id, passed⟩ := entry
    obtain ⟨signature, shows, types, numbers⟩ := prepare_enters valid prepared
    refine ⟨id, signature, passed, shows, types, numbers, ?_, ?_⟩
    · rw [entries_invoke, prepared]
      rfl
    · rw [perform_invoke, invoke, prepared]

end

end Context

/-- A guest that is linked is the one that was checked. -/
theorem Linked.link_valid {settings : Settings} {registry : Registry} {guest : Wasm.Module}
    {linked : Linked} (sound : guest.defect? = none)
    (links : Linked.link settings registry guest = .ok linked) : linked.guest.Valid := by
  rw [(link_ok_iff.mp links).2.2.2.1]
  exact Wasm.Module.defect?_eq_none_iff.mp sound

/--
The checks of a call by name are ordered and complete, and they have no effects.

In any context of a linked guest, on any store, a call is turned down exactly for the first of these
reasons: no function is exported under the name, its type is not over integers alone, it takes another
number of arguments, or an argument is wider than its parameter, where the first such is named. Then no
function is entered and the store stays as it is, whatever the functions of the instance would do. Any
other call enters the function under its name exactly once, with values of the types of its parameters
that are the very numbers given, and ends as the function does.
-/
theorem Linked.invoke_decided {settings : Settings} {registry : Registry} {guest : Wasm.Module}
    {linked : Linked} (sound : guest.defect? = none)
    (links : Linked.link settings registry guest = .ok linked) (patience depth : Nat)
    (visible : Bool) (self name : String) (arguments : List Value) (store : Store) :
    let context := linked.context patience depth visible self
    (∀ fault, context.TurnsDown name arguments fault →
      context.entries (Program.invoke name arguments) store = [] ∧
      ∀ call, ({ context with call } : Context).perform (Program.invoke name arguments) store =
        some (.error fault, store)) ∧
    ((∀ fault, ¬ context.TurnsDown name arguments fault) →
      ∃ (id : String) (signature : Signature) (passed : List Value),
        context.Shows name id signature.funcType ∧
        passed.map Value.type = signature.params ∧
        passed.map (·.bits.toNat) = arguments.map (·.bits.toNat) ∧
        context.entries (Program.invoke name arguments) store = [(id, passed)] ∧
        context.perform (Program.invoke name arguments) store =
          (context.call id passed).surface store) := by
  have valid : linked.guest.Valid := link_valid sound links
  exact ⟨fun _ turned => Context.invoke_turned valid turned store,
    fun welcome => Context.invoke_entered valid welcome store⟩

/-- The second argument is the first one that is too wide, so it is named and nothing runs; two short ones
are entered with as they are. -/
theorem Linked.invoke_decided_echo :
    (∀ call, ({ Sample.context Sample.descend with call } : Context).perform
        (Program.invoke "echo" [.i32 7, .i64 7]) (Sample.inst Sample.descend).store =
      some (.error (.signatureMismatch "echo" (.argument 1 .i64 .i32)),
        (Sample.inst Sample.descend).store)) ∧
    ∃ (id : String) (passed : List Value),
      (Sample.context Sample.descend).entries (Program.invoke "echo" [.i32 7, .i32 0xFFFFFFFF])
        (Sample.inst Sample.descend).store = [(id, passed)] ∧
      passed.map Value.type = [.i32, .i32] ∧ passed.map (·.bits.toNat) = [7, 4294967295] := by
  have sound : Sample.guest.defect? = none := rfl
  have links := Sample.links Sample.descend
  have valid : (Sample.context Sample.descend).linked.guest.Valid :=
    Wasm.Module.defect?_eq_none_iff.mp sound
  have exported : (⟨"echo", .function "echo"⟩ : Wasm.Export) ∈ Sample.guest.exports := by
    simp [Sample.guest]
  have shows : (Sample.context Sample.descend).Shows "echo" "echo"
      (Signature.funcType ⟨[.i32, .i32], [.i64]⟩) := ⟨rfl, exported, rfl⟩
  constructor
  · have wide : TooWide [.i32 7, .i64 7] [.i32, .i32] 1 := ⟨⟨7, rfl⟩, rfl⟩
    have first : ∀ earlier < 1, ¬ TooWide [.i32 7, .i64 7] [.i32, .i32] earlier := by
      simp [TooWide]
    exact ((Linked.invoke_decided sound links 16 16 true "host" "echo" _ _).1 _
      (.unfit shows rfl wide first)).2
  · have welcome (fault : Fault) : ¬ (Sample.context Sample.descend).TurnsDown "echo"
        [.i32 7, .i32 0xFFFFFFFF] fault := by
      rw [← Context.prepare_error_iff valid]
      exact nofun
    obtain ⟨id, signature, passed, shown, types, numbers, entered, -⟩ :=
      (Linked.invoke_decided sound links 16 16 true "host" "echo" _
        (Sample.inst Sample.descend).store).2 welcome
    refine ⟨id, passed, entered, ?_, numbers⟩
    -- What is exported under the name is known, and it has one type.
    have same := ((Context.function?_eq_some_iff_shows valid).mpr shown).symm.trans
      ((Context.function?_eq_some_iff_shows valid).mpr shows)
    rw [types, Signature.funcType_injective (Prod.mk.inj (Option.some.inj same)).2]

end GuestBoundary
