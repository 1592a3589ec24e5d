import GuestBoundary.Proofs.AllocationEnds
import GuestBoundary.Proofs.InnerFaults

/-! The reasons of failed allocations: when an allocation says that the allocator is missing, and when
that is so. -/

namespace GuestBoundary

open Program

/-- A failed allocation whose reason reads that the guest exports no allocator of a name. -/
def Fault.NamesMissing (allocator : String) : Fault → Prop
  | .allocationFailed _ why => why.text = (Refusal.missing allocator).text
  | _ => False

/-- The faults from below an allocator that an allocation turns, or leaves as they are, into one that
says that the allocator is missing. -/
def Fault.Misleads (allocator : String) (fault : Fault) : Prop :=
  (∃ name, fault = .exportNotFound name) ∨ fault.NamesMissing allocator

/-- What is appended to a text does not change its first letter. -/
theorem starts_append {text rest : String} {first : Char} (starts : text.toList.head? = some first) :
    (text ++ rest).toList.head? = some first := by
  rw [String.toList_append, List.head?_append, starts, Option.some_or]

/-- A text with another first letter is not that of a missing allocator. -/
theorem Refusal.missing_text_ne {name text : String} {first : Char}
    (starts : text.toList.head? = some first) (other : first ≠ 'n') :
    text ≠ (Refusal.missing name).text := by
  have own : "no allocator export '".toList.head? = some 'n' := by simp
  rintro rfl
  exact other (Option.some.inj (starts.symm.trans (starts_append (starts_append own))))

/-- What is taken for the allocator's failure does not read like its absence. -/
theorem Fault.Breaks.message_ne {fault : Fault} (breaks : fault.Breaks) (name : String) :
    fault.message ≠ (Refusal.missing name).text := by
  -- The three messages have first letters of their own, before anything that varies.
  cases fault with
  | guestTrapped cause =>
    have start : "guest trapped: ".toList.head? = some 'g' := by simp
    exact Refusal.missing_text_ne (starts_append start) (by decide)
  | arityMismatch own expected actual =>
    have start : "arity mismatch calling ".toList.head? = some 'a' := by simp
    exact Refusal.missing_text_ne (starts_append (starts_append (starts_append (starts_append
      (starts_append start))))) (by decide)
  | signatureMismatch own why =>
    have start : "signature mismatch for ".toList.head? = some 's' := by simp
    exact Refusal.missing_text_ne (starts_append (starts_append (starts_append start))) (by decide)
  | _ => exact breaks.elim

/-- The reasons with a wording of their own, other than that of a missing allocator. -/
def Refusal.Worded : Refusal → Prop
  | .missing _ => False
  | .failed _ => False
  | .stated _ => False
  | _ => True

/-- No other reason of the boundary's own wording reads like a missing allocator. -/
theorem Refusal.Worded.text_ne {why : Refusal} (worded : why.Worded) (name : String) :
    why.text ≠ (Refusal.missing name).text := by
  -- Each of them has a first letter of its own.
  cases why with
  | missing | failed | stated => exact worded.elim
  | zeroLength =>
    have start : "zero-length allocation".toList.head? = some 'z' := by simp
    exact Refusal.missing_text_ne start (by decide)
  | wrongResults values =>
    have start : "allocator must return one i32 pointer, got ".toList.head? = some 'a' := by simp
    exact Refusal.missing_text_ne (starts_append start) (by decide)
  | null =>
    have start : "allocator returned null".toList.head? = some 'a' := by simp
    exact Refusal.missing_text_ne start (by decide)
  | outOfBounds pointer =>
    have start : "allocator returned out-of-bounds pointer ".toList.head? = some 'a' := by simp
    exact Refusal.missing_text_ne (starts_append start) (by decide)
  | tooLarge =>
    have start : "payload larger than 4 GiB".toList.head? = some 'p' := by simp
    exact Refusal.missing_text_ne start (by decide)

/-- Only a missing export and a failed allocation can mislead. -/
theorem Fault.not_misleads {fault : Fault} {allocator : String}
    (found : ∀ name, fault ≠ .exportNotFound name)
    (other : ∀ length why, fault ≠ .allocationFailed length why) : ¬ fault.Misleads allocator := by
  rintro (⟨name, rfl⟩ | named)
  · exact found name rfl
  · cases fault with
    | allocationFailed length why => exact other length why rfl
    | _ => exact named

/-- Access to memory does not mislead about an allocator. -/
theorem Fault.AllowsAccess.honest (allocator : String) :
    Fault.AllowsAccess fun fault => ¬ fault.Misleads allocator where
  outOfBounds := fun _ _ _ => not_misleads nofun nofun
  memoryMissing := fun _ => not_misleads nofun nofun
  tooLarge := by
    rintro (⟨_, ⟨⟩⟩ | named)
    have worded : Refusal.tooLarge.Worded := trivial
    exact worded.text_ne allocator named

namespace Context

variable {context : Context}

/-- An allocation of some bytes says that the allocator is missing exactly if it is, or if its run was
ended by a host function with a fault that is then mistaken for its absence. -/
theorem namesMissing_iff (valid : context.linked.guest.Valid)
    (sees : context.visible = true → context.SeesMemory) {length : UInt32} (positive : length ≠ 0)
    {store left : Store} {fault : Fault}
    (failed : context.perform (allocate length) store = some (.error fault, left)) :
    fault.NamesMissing context.allocator ↔
      context.Lacks context.allocator ∨
        ∃ raised, raised.Misleads context.allocator ∧
          context.AllocatorRuns length store (some (.error (.raised raised), left)) := by
  -- An allocation that is known to end in a way has ended in it.
  have ended {other : Fault} {last : Store}
      (ends : context.AllocationEnds length store (.error other) last) : fault = other := by
    have both := failed.symm.trans ((perform_allocate_iff valid sees).mpr ends)
    cases both
    rfl
  constructor
  · intro named
    cases (perform_allocate_iff valid sees).mp failed with
    | empty zero => exact absurd zero positive
    | missing _ lacks => exact .inl lacks
    | @foreign _ type =>
      have breaks : (Fault.signatureMismatch context.allocator (.exportNotInteger type)).Breaks := trivial
      exact absurd named (breaks.message_ne _)
    | @arity _ signature _ _ differ =>
      have breaks : (Fault.arityMismatch context.allocator signature.params.length 1).Breaks := trivial
      exact absurd named (breaks.message_ne _)
    | @trapped cause _ _ ran =>
      have breaks : (Fault.guestTrapped cause).Breaks := trivial
      exact absurd named (breaks.message_ne _)
    | starved | refused => exact named.elim
    | raisedBreak _ _ breaks => exact absurd named (breaks.message_ne _)
    | raisedMissing _ ran => exact .inr ⟨_, .inl ⟨_, rfl⟩, ran⟩
    | raised _ ran => exact .inr ⟨_, .inr named, ran⟩
    | @misshapen values =>
      have worded : (Refusal.wrongResults values).Worded := trivial
      exact absurd named (worded.text_ne _)
    | null =>
      have worded : Refusal.null.Worded := trivial
      exact absurd named (worded.text_ne _)
    | @outside pointer =>
      have worded : (Refusal.outOfBounds pointer).Worded := trivial
      exact absurd named (worded.text_ne _)
  · rintro (lacks | ⟨raised, ⟨name, rfl⟩ | named, ran⟩)
    · rw [ended (.missing positive lacks)]
      exact rfl
    · rw [ended (.raisedMissing positive ran)]
      exact rfl
    · cases raised with
      | allocationFailed inner why =>
        rw [ended (.raised positive ran id nofun)]
        exact named
      | _ => exact named.elim

/-- Where an allocator is exported and no call misleads about it, no allocation does. -/
theorem allocate_honest (valid : context.linked.guest.Valid) (sees : context.SeesMemory)
    {id : String} (exported : ⟨context.allocator, .function id⟩ ∈ context.linked.guest.exports)
    (calls : ∀ id arguments, (context.call id arguments).FailsAs fun failure =>
      ¬ failure.fault.Misleads context.allocator) (length : UInt32) :
    context.FailsWith (fun fault => ¬ fault.Misleads context.allocator) (allocate length) := by
  rintro store fault left failed (⟨name, rfl⟩ | named)
  · -- An export that is not found below the allocator is not passed on as such.
    cases (perform_allocate_iff valid fun _ => sees).mp failed with
    | raised _ _ _ found => exact found name rfl
  · by_cases zero : length = 0
    · rw [allocate, if_pos zero] at failed
      cases failed
      have worded : Refusal.zeroLength.Worded := trivial
      exact worded.text_ne _ named
    rcases (namesMissing_iff valid (fun _ => sees) zero failed).mp named with
      lacks | ⟨raised, misleads, _, _, _, _, called⟩
    · exact lacks (Bool.and_eq_true_iff.mp sees).1 id exported
    · exact calls _ _ _ _ _ called misleads

end Context

/-- Where all host functions are standard capabilities, no call misleads about an exported allocator, at
any depth. -/
theorem Linked.call_honest {linked : Linked} (valid : linked.guest.Valid)
    (standard : ∀ {id host}, linked.hosts.lookup id = some host → Capability.Standard host)
    {own : String}
    (exported : ⟨linked.conventions.allocExport, .function own⟩ ∈ linked.guest.exports)
    (patience depth : Nat) (caller : Caller) (id : String) (arguments : List Value) :
    (linked.call patience depth caller id arguments).FailsAs fun failure =>
      ¬ failure.fault.Misleads linked.conventions.allocExport := by
  -- Guest code itself only traps or runs out of fuel.
  have code : Wasm.AllowsOwn fun failure =>
      ¬ failure.fault.Misleads linked.conventions.allocExport :=
    ⟨fun _ => Fault.not_misleads nofun nofun, Fault.not_misleads nofun nofun⟩
  refine call_failsAs code linked patience (fun bound context same calls arguments => ?_) depth caller
    id arguments
  -- What a capability fails with is access to memory, or an allocation made where it runs.
  subst same
  exact Context.failsWith_standard (Fault.AllowsAccess.honest _)
    (fun sees => Context.allocate_honest valid sees exported calls) (standard bound) arguments

/--
When an allocation says that the allocator is missing, and when that is true.

In any context of a linked guest and for any positive length, an allocation says so wherever the context
shows no function under the allocator's name. It says so otherwise only if a host function that was called
below the allocator ended its run: with an export that was not found, whatever its name, or with an
allocation that says the same. Where all host functions are standard capabilities that cannot happen, and
what is said is true.
-/
theorem Linked.allocation_reasons {settings : Settings} {registry : Registry} {guest : Wasm.Module}
    {linked : Linked} (sound : guest.defect? = none)
    (links : Linked.link settings registry guest = .ok linked) (patience depth : Nat)
    (visible : Bool) (self : String) {length : UInt32} (positive : length ≠ 0) (store : Store) :
    let context := linked.context patience depth visible self
    (context.Lacks context.allocator → context.perform (allocate length) store =
      some (.error (.allocationFailed length (.missing context.allocator)), store)) ∧
    ∀ fault left, context.perform (allocate length) store = some (.error fault, left) →
      (fault.NamesMissing context.allocator ↔
        context.Lacks context.allocator ∨
          ∃ raised, raised.Misleads context.allocator ∧
            context.AllocatorRuns length store (some (.error (.raised raised), left))) ∧
      ((∀ id host, linked.hosts.lookup id = some host → Capability.Standard host) →
        (fault.NamesMissing context.allocator ↔ context.Lacks context.allocator)) := by
  intro context
  have valid : linked.guest.Valid := link_valid sound links
  have sees : context.visible = true → context.SeesMemory := by
    intro shown
    obtain rfl : visible = true := shown
    exact linked.context_seesMemory links patience depth self
  refine ⟨fun lacks => (Context.perform_allocate_iff valid sees).mpr (.missing positive lacks),
    fun fault left failed => ?_⟩
  have reasons := Context.namesMissing_iff valid sees positive failed
  refine ⟨reasons, fun standard => reasons.trans ⟨?_, .inl⟩⟩
  rintro (lacks | ⟨raised, misleads, own, _, _, ⟨shown, exported, _⟩, called⟩)
  · exact lacks
  · -- The allocator that has run is exported, so nothing below it could have misled.
    exact absurd misleads (call_honest valid (standard _ _) exported patience depth .host own _ _ _ _
      called)

namespace Sample

/-- A host function that calls an export which the guest does not have. -/
def seek (_ : List Value) : Program (List Value) := Program.invoke "absent" []

/-- The guest with an allocator that calls the host function before it answers. -/
def asking : Wasm.Module :=
  { guest with
    functions :=
      [⟨"bump", ⟨[.number .i32], [.number .i32]⟩, [],
          [.localGet 0, .call "visit", .const (.i32 16)]⟩,
        deallocator, echo, relay, boot] }

/-- The guest with the asking allocator, with its import bound. -/
def asked : Linked := { linked seek with guest := asking }

/-- The guest with the asking allocator, freshly instantiated. -/
def askedInst : Instance := ⟨asked, Instance.initialStore .default asked⟩

end Sample

/-- An allocator that is said to be missing although it has run was ended by a host function; one that
takes an argument too many is not said to be missing. -/
theorem Linked.allocation_reasons_asked :
    (8 : UInt32) ≠ 0 ∧
    (∃ raised left, raised.Misleads "malloc" ∧
      (Instance.context Sample.engine Sample.asked).AllocatorRuns 8 Sample.askedInst.store
        (some (.error (.raised raised), left))) ∧
    ∃ fault left, (Instance.context Sample.engine Sample.fetching.linked).perform (allocate 8)
        Sample.fetching.store = some (.error fault, left) ∧ ¬ fault.NamesMissing "malloc" := by
  have positive : (8 : UInt32) ≠ 0 := by decide
  refine ⟨positive, ?_, ?_⟩
  · have links : Linked.link .default (Sample.registry Sample.seek) Sample.asking =
        .ok Sample.asked := rfl
    obtain ⟨left, failed⟩ : ∃ left, (Instance.context Sample.engine Sample.asked).perform (allocate 8)
        Sample.askedInst.store = some (.error (.allocationFailed 8 (.missing "malloc")), left) :=
      ⟨_, rfl⟩
    have exported : (⟨"malloc", .function "bump"⟩ : Wasm.Export) ∈ Sample.asking.exports := by
      simp [Sample.asking, Sample.guest]
    rcases ((Linked.allocation_reasons rfl links 16 16 true "host" positive _).2 _ left
      failed).1.mp rfl with lacks | ⟨raised, misleads, ran⟩
    · exact absurd exported (lacks rfl "bump")
    · exact ⟨raised, left, misleads, ran⟩
  · have links : Linked.link .default (Capability.registry "env") Sample.fetcher =
        .ok Sample.fetching.linked := rfl
    obtain ⟨fault, left, failed⟩ : ∃ fault left,
        (Instance.context Sample.engine Sample.fetching.linked).perform (allocate 8)
          Sample.fetching.store = some (.error fault, left) := ⟨_, _, rfl⟩
    have exported : (⟨"malloc", .function "take"⟩ : Wasm.Export) ∈ Sample.fetcher.exports := by
      simp [Sample.fetcher]
    have standard (id : String) (host : HostFunction)
        (bound : Sample.fetching.linked.hosts.lookup id = some host) : Capability.Standard host := by
      have member := (lookup_eq_some_iff_mem (by simp [Sample.fetching])).mp bound
      obtain ⟨_, rfl⟩ : id = "deliver" ∧ host = Capability.getString Capability.defaultText "env" := by
        simpa [Sample.fetching] using member
      exact .getString _ _
    refine ⟨fault, left, failed, fun named => ?_⟩
    have lacks := (((Linked.allocation_reasons rfl links 16 16 true "host" positive _).2 fault left
      failed).2 standard).mp named
    exact lacks rfl "take" exported

/-- An allocation reads that no allocator is exported, on an instance that exports one: what was not found
is another export, which a host function had asked for below the allocator. -/
theorem Instance.exported_allocator_blamed :
    Linked.link .default (Sample.registry Sample.seek) Sample.asking = .ok Sample.asked ∧
      (Instance.context Sample.engine Sample.asked).Shows "malloc" "bump"
        (Signature.funcType ⟨[.i32], [.i32]⟩) ∧
      (∃ left, Sample.askedInst.perform Sample.engine (allocate 8) =
        some (.error (.allocationFailed 8 (.missing "malloc")), left)) ∧
      (Fault.allocationFailed 8 (.missing "malloc")).message =
        "allocation of 8 bytes failed: no allocator export 'malloc'" := by
  have exported : (⟨"malloc", .function "bump"⟩ : Wasm.Export) ∈ Sample.asking.exports := by
    simp [Sample.asking, Sample.guest]
  exact ⟨rfl, ⟨rfl, exported, rfl⟩, ⟨_, rfl⟩, rfl⟩

end GuestBoundary
