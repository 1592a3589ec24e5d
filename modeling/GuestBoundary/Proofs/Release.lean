import GuestBoundary.Proofs.Dispatch
import GuestBoundary.Proofs.Ownership

/-! Releases, decided: a release is settled by what the boundary knows of the buffer and of the deallocator,
and then nothing runs at all, or it enters the deallocator once and ends as that does. -/

namespace GuestBoundary

open Program

/-- What a release gives to a deallocator of as many parameters: the pointer, and then the length. -/
def Buffer.given (buffer : Buffer) (count : Nat) : List Value :=
  [.i32 buffer.pointer, .i32 buffer.length].take count

/-- A deallocator takes one argument or two. -/
def Signature.Deallocator (signature : Signature) : Prop :=
  signature.params.length = 1 ∨ signature.params.length = 2

namespace Context

/-- How a release ends before any function is entered. Each reason is looked for only where those before
it do not hold. -/
inductive SettlesRelease (context : Context) (buffer : Buffer) : Except Fault Unit → Prop
  /-- The buffer is not the host's to release. -/
  | rejected (other : buffer.owner ≠ .hostOwned) :
      SettlesRelease context buffer (.error (.releaseRejected buffer.owner))
  /-- The conventions name no deallocator. -/
  | unnamed (owned : buffer.owner = .hostOwned)
      (nameless : context.linked.conventions.freeExport = none) :
      SettlesRelease context buffer (.ok ())
  /-- The guest has no function of that name. -/
  | missing {deallocator : String} (owned : buffer.owner = .hostOwned)
      (named : context.linked.conventions.freeExport = some deallocator)
      (lacks : context.Lacks deallocator) : SettlesRelease context buffer (.ok ())
  /-- The deallocator takes or gives what is no integer. -/
  | foreign {deallocator id : String} {type : Wasm.FuncType} (owned : buffer.owner = .hostOwned)
      (named : context.linked.conventions.freeExport = some deallocator)
      (shows : context.Shows deallocator id type) (foreign : type.Foreign) :
      SettlesRelease context buffer
        (.error (.signatureMismatch deallocator (.exportNotInteger type)))
  /-- The deallocator takes neither one argument nor two. -/
  | arity {deallocator id : String} {signature : Signature} (owned : buffer.owner = .hostOwned)
      (named : context.linked.conventions.freeExport = some deallocator)
      (shows : context.Shows deallocator id signature.funcType) (odd : ¬ signature.Deallocator) :
      SettlesRelease context buffer
        (.error (.signatureMismatch deallocator (.deallocatorArity signature.params.length)))

end Context

/-- A deallocator that takes one argument or two is given as many. -/
theorem Program.deallocatorArguments_given {deallocator : String} {buffer : Buffer}
    {signature : Signature} (takes : signature.Deallocator) :
    deallocatorArguments deallocator buffer signature.arity =
      .ok (buffer.given signature.params.length) := by
  unfold Signature.arity
  rcases takes with one | two
  · rw [one]
    rfl
  · rw [two]
    rfl

/-- A deallocator that takes another number of arguments is refused for that number. -/
theorem Program.deallocatorArguments_refused {deallocator : String} {buffer : Buffer}
    {signature : Signature} (odd : ¬ signature.Deallocator) :
    deallocatorArguments deallocator buffer signature.arity =
      .error (.signatureMismatch deallocator (.deallocatorArity signature.params.length)) := by
  -- The two numbers that are taken are the two that are matched on.
  unfold deallocatorArguments Signature.arity
  split
  · rename_i one
    exact absurd (.inl one) odd
  · rename_i two
    exact absurd (.inr two) odd
  · rfl

/-- Two words fit whatever integers a deallocator takes. -/
theorem Buffer.given_fits (buffer : Buffer) {types : List NumType}
    (takes : types.length = 1 ∨ types.length = 2) :
    List.Forall₂ (fun value type => value.fits type = true) (buffer.given types.length) types := by
  -- A narrow value fits both types, so only the number of them matters.
  rcases takes with one | two
  · obtain ⟨first, rfl⟩ := List.length_eq_one_iff.mp one
    exact .cons rfl .nil
  · obtain ⟨first, second, rfl⟩ := List.length_eq_two.mp two
    exact .cons rfl (.cons rfl .nil)

namespace Context

variable {context : Context} {buffer : Buffer} {store : Store}

/-- What a release enters for a buffer that the host owns: the deallocator, if there is one and the call
of it passes all checks. -/
theorem entries_release (owned : buffer.owner = .hostOwned) (store : Store) :
    context.entries (release buffer) store =
      (do
        let deallocator ← context.linked.conventions.freeExport
        let function ← context.function? deallocator
        let declared ← function.2.signature?
        let arguments ← (deallocatorArguments deallocator buffer declared.arity).toOption
        (context.prepare deallocator arguments).toOption).toList := by
  -- Everything before the call of the deallocator only looks at what there is.
  have checked : buffer.checkRelease = .ok () := by rw [Buffer.checkRelease, owned]
  rw [release, checked, entries_bind_quiet (asks_settle _) (perform_settle _ _ _),
    entries_bind_quiet quiet_conventions (perform_conventions _ _)]
  cases context.linked.conventions.freeExport with
  | none => rfl
  | some deallocator =>
    simp only [Option.bind_eq_bind, Option.bind_some]
    rw [entries_bind_quiet (quiet_hasExport _) (perform_hasExport _ _ _)]
    cases found : context.function? deallocator with
    | none => rfl
    | some function =>
      obtain ⟨id, type⟩ := function
      simp only [Option.isSome_some, if_true, entries_bind (Program.signature _),
        entries_quiet (quiet_signature _), perform_signature, found, List.nil_append,
        Option.bind_some]
      cases type.signature? with
      | none => rfl
      | some declared =>
        simp only [Option.bind_some]
        cases deallocatorArguments deallocator buffer declared.arity with
        | error fault => rfl
        | ok arguments =>
          -- The results of the call are ignored, so nothing is entered after it.
          change context.entries (Program.invoke deallocator arguments >>= fun _ => pure ()) store = _
          refine (entries_bind_last fun _ => ?_).trans (entries_invoke _ _ _)
          trivial

/-- A buffer that the host does not own is not given back, so nothing is entered. -/
theorem entries_release_rejected (other : buffer.owner ≠ .hostOwned) (store : Store) :
    context.entries (release buffer) store = [] := by
  rw [release, Buffer.checkRelease_rejected other]
  rfl

section

variable (valid : context.linked.guest.Valid)
include valid

/-- A release that is settled ends as it is settled, with nothing entered and the store as it was. -/
theorem release_settled {outcome : Except Fault Unit}
    (settled : context.SettlesRelease buffer outcome) (store : Store) :
    context.entries (release buffer) store = [] ∧
      context.perform (release buffer) store = some (outcome, store) := by
  -- Each reason decides one of the looks that a release takes before it calls anything.
  cases settled with
  | rejected other =>
    exact ⟨entries_release_rejected other store, perform_release_rejected other context store⟩
  | unnamed owned nameless =>
    -- Without a name there is nothing to look for.
    rw [entries_release owned, perform_release owned, nameless]
    exact ⟨rfl, rfl⟩
  | missing owned named lacks =>
    have absent := (function?_eq_none_iff_lacks valid).mpr lacks
    simp [entries_release owned, perform_release owned, named, absent]
  | foreign owned named shows foreign =>
    -- There is a function, but no signature to take the number of arguments from.
    have found := (function?_eq_some_iff_shows valid).mpr shows
    have unknown := Wasm.FuncType.signature?_eq_none_iff.mpr foreign
    simp [entries_release owned, perform_release owned, named, found, unknown]
  | arity owned named shows odd =>
    -- The signature is there, and there are no arguments for it.
    have found := (function?_eq_some_iff_shows valid).mpr shows
    simp [entries_release owned, perform_release owned, named, found,
      deallocatorArguments_refused odd, Except.toOption]

/-- A release that nothing settles has a deallocator to call, which takes one argument or two. -/
theorem release_unsettled (unsettled : ∀ outcome, ¬ context.SettlesRelease buffer outcome) :
    buffer.owner = .hostOwned ∧ ∃ (deallocator id : String) (signature : Signature),
      context.linked.conventions.freeExport = some deallocator ∧
      context.Shows deallocator id signature.funcType ∧ signature.Deallocator := by
  -- Each look that a release takes finds something, or it would have been settled there.
  have owned : buffer.owner = .hostOwned := by
    by_contra other
    exact unsettled _ (.rejected other)
  cases named : context.linked.conventions.freeExport with
  | none => exact absurd (.unnamed owned named) (unsettled _)
  | some deallocator =>
    cases found : context.function? deallocator with
    | none =>
      exact absurd (.missing owned named ((function?_eq_none_iff_lacks valid).mp found))
        (unsettled _)
    | some function =>
      obtain ⟨id, type⟩ := function
      have shows := (function?_eq_some_iff_shows valid).mp found
      cases known : type.signature? with
      | none =>
        exact absurd (.foreign owned named shows (Wasm.FuncType.signature?_eq_none_iff.mp known))
          (unsettled _)
      | some signature =>
        -- Only its arity could still settle the release.
        obtain rfl := Wasm.FuncType.signature?_eq_some_iff.mp known
        refine ⟨owned, deallocator, id, signature, rfl, shows, ?_⟩
        by_contra odd
        exact unsettled _ (.arity owned named shows odd)

/-- A deallocator that takes one argument or two is entered once, with the pointer and the length that it
takes as numbers of the types that it declares, and the release ends as it does. -/
theorem release_called (owned : buffer.owner = .hostOwned) {deallocator id : String}
    {signature : Signature} (named : context.linked.conventions.freeExport = some deallocator)
    (shows : context.Shows deallocator id signature.funcType) (takes : signature.Deallocator)
    (store : Store) :
    ∃ passed : List Value, passed.map Value.type = signature.params ∧
      passed.map (·.bits.toNat) =
        [buffer.pointer.toNat, buffer.length.toNat].take signature.params.length ∧
      context.entries (release buffer) store = [(id, passed)] ∧
      context.perform (release buffer) store =
        match (context.call id passed).surface store with
        | none => none
        | some (.ok _, left) => some (.ok (), left)
        | some (.error fault, left) => some (.error fault, left) := by
  have found := (function?_eq_some_iff_shows valid).mpr shows
  -- Two words always pass the checks of a call.
  have checked : checkArguments deallocator signature (buffer.given signature.params.length) =
      .ok (List.zipWith Value.coerce (buffer.given signature.params.length) signature.params) :=
    checkArguments_ok_iff.mpr ⟨buffer.given_fits takes, rfl⟩
  have prepared := prepare_ok_iff.mpr ⟨signature, found, checked⟩
  obtain ⟨types, bits⟩ := checkArguments_passed checked
  refine ⟨_, types, ?_, ?_, ?_⟩
  · -- Coercing a word to either type keeps its number.
    have numbers := congrArg (List.map UInt64.toNat) bits
    simpa [Buffer.given, List.map_take, Function.comp_def, Value.bits] using numbers
  · simp [entries_release owned, named, found, deallocatorArguments_given takes, prepared,
      Except.toOption]
  · have performed := @perform_release context buffer owned store
    simp only [named, found, Wasm.FuncType.signature?_funcType, deallocatorArguments_given takes,
      invoke, prepared] at performed
    exact performed

/-- An exported item that is no function leaves its name without one. -/
theorem lacks_of_other {name : String} {kind : Wasm.ExportKind}
    (member : ⟨name, kind⟩ ∈ context.linked.guest.exports) (other : ∀ id, kind ≠ .function id) :
    context.Lacks name := by
  -- No two exports have the same name.
  intro _ id function
  cases valid.export_unique member function rfl
  exact other id rfl

end

end Context

/--
A release is settled before anything runs, or it is one call of the deallocator.

In any context of a linked guest, on any store, a release is settled for the first of these reasons: the
buffer is not the host's, no deallocator is named, the guest has no function of its name, its type is not
over integers alone, or it takes neither one argument nor two. The second and the third are successes, and
the others their faults. Then no function is entered and the store stays as it is, whatever the functions
of the instance would do. Any other release enters the deallocator exactly once, with the pointer, or with
the pointer and the length, as the very numbers in the types of its parameters. It leaves what the
deallocator leaves, and its outcome is that of the deallocator, less the results. An item that is exported
under the name but is no function counts as no deallocator.
-/
theorem Linked.release_decided {settings : Settings} {registry : Registry} {guest : Wasm.Module}
    {linked : Linked} (sound : guest.defect? = none)
    (links : Linked.link settings registry guest = .ok linked) (patience depth : Nat)
    (visible : Bool) (self : String) (buffer : Buffer) (store : Store) :
    let context := linked.context patience depth visible self
    (∀ outcome, context.SettlesRelease buffer outcome →
      context.entries (Program.release buffer) store = [] ∧
      ∀ call, ({ context with call } : Context).perform (Program.release buffer) store =
        some (outcome, store)) ∧
    ((∀ outcome, ¬ context.SettlesRelease buffer outcome) →
      buffer.owner = .hostOwned ∧
      ∃ (deallocator id : String) (signature : Signature) (passed : List Value),
        linked.conventions.freeExport = some deallocator ∧
        context.Shows deallocator id signature.funcType ∧
        (signature.params.length = 1 ∨ signature.params.length = 2) ∧
        passed.map Value.type = signature.params ∧
        passed.map (·.bits.toNat) =
          [buffer.pointer.toNat, buffer.length.toNat].take signature.params.length ∧
        context.entries (Program.release buffer) store = [(id, passed)] ∧
        context.perform (Program.release buffer) store =
          match (linked.call patience depth .host id passed).surface store with
          | none => none
          | some (.ok _, left) => some (.ok (), left)
          | some (.error fault, left) => some (.error fault, left)) ∧
    ∀ deallocator kind, linked.conventions.freeExport = some deallocator →
      ⟨deallocator, kind⟩ ∈ linked.guest.exports → (∀ id, kind ≠ .function id) →
      buffer.owner = .hostOwned → context.SettlesRelease buffer (.ok ()) := by
  intro context
  have valid : context.linked.guest.Valid := link_valid sound links
  refine ⟨fun outcome settled => ?_, fun unsettled => ?_,
    fun deallocator kind named member other owned =>
      .missing owned named (Context.lacks_of_other valid member other)⟩
  · -- What enters nothing does not depend on what could be entered.
    obtain ⟨unentered, performed⟩ := Context.release_settled valid settled store
    exact ⟨unentered, fun call => (Context.perform_unentered unentered call).trans performed⟩
  · obtain ⟨owned, deallocator, id, signature, named, shows, takes⟩ :=
      Context.release_unsettled valid unsettled
    obtain ⟨passed, types, numbers, entered, performed⟩ :=
      Context.release_called valid owned named shows takes store
    exact ⟨owned, deallocator, id, signature, passed, named, shows, takes, types, numbers, entered,
      performed⟩

/-- A deallocator that takes the length as a long integer, keeps it in what it is given, and answers. -/
def Sample.keeper : Wasm.Function where
  id := "keep"
  type := ⟨[.number .i32, .number .i64], [.number .i32]⟩
  locals := []
  body := [.localGet 0, .localGet 1, .wrap, .store, .const (.i32 7)]

/-- The small guest with that deallocator. -/
def Sample.thrifty : Wasm.Module :=
  { Sample.guest with
    functions := [allocator, keeper, echo, relay, boot]
    exports := [⟨"memory", .memory 0⟩, ⟨"malloc", .function "bump"⟩, ⟨"free", .function "keep"⟩] }

/-- A buffer of the guest is rejected and nothing runs. One of the host goes to the deallocator, whose
second argument is the length as a long integer, and what that answers is ignored. -/
theorem Linked.release_decided_thrifty :
    let linked : Linked := { Sample.linked Sample.descend with guest := Sample.thrifty }
    let context := linked.context 16 16 true "host"
    let store := Instance.initialStore .default linked
    (∀ call, ({ context with call } : Context).perform
        (Program.release ⟨⟨16, 4⟩, .guestOwned⟩) store =
      some (.error (.releaseRejected .guestOwned), store)) ∧
    ∃ left, context.perform (Program.release ⟨⟨16, 0xFFFFFFFF⟩, .hostOwned⟩) store =
        some (.ok (), left) ∧
      left.memory.bytesAt 16 4 = [255, 255, 255, 255] ∧
      ∃ passed : List Value, passed.map (·.bits.toNat) = [16, 0xFFFFFFFF] ∧
        context.entries (Program.release ⟨⟨16, 0xFFFFFFFF⟩, .hostOwned⟩) store =
          [("keep", passed)] := by
  intro linked context store
  have links : Linked.link .default (Sample.registry Sample.descend) Sample.thrifty = .ok linked := rfl
  have sound : Sample.thrifty.defect? = none := rfl
  refine ⟨((Linked.release_decided sound links 16 16 true "host" _ store).1 _
    (.rejected Ownership.noConfusion)).2, _, rfl, rfl, ?_⟩
  -- What is entered can be computed, so nothing has settled the release.
  have entered : context.entries (Program.release ⟨⟨16, 0xFFFFFFFF⟩, .hostOwned⟩) store =
      [("keep", [.i32 16, .i64 0xFFFFFFFF])] := rfl
  obtain ⟨settled, called, -⟩ := Linked.release_decided sound links 16 16 true "host"
    ⟨⟨16, 0xFFFFFFFF⟩, .hostOwned⟩ store
  have unsettled (outcome : Except Fault Unit) :
      ¬ context.SettlesRelease ⟨⟨16, 0xFFFFFFFF⟩, .hostOwned⟩ outcome := by
    intro reason
    have unentered := (settled outcome reason).1
    rw [entered] at unentered
    cases unentered
  obtain ⟨-, deallocator, id, signature, passed, -, -, -, types, numbers, once, -⟩ := called unsettled
  rw [entered] at once
  cases once
  -- Its parameters are the types of what it was entered with.
  rw [← types] at numbers
  exact ⟨_, numbers, entered⟩

end GuestBoundary
