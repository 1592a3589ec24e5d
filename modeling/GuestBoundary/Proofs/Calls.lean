import GuestBoundary.Proofs.Allocation
import GuestBoundary.Proofs.Scopes

/-! Calls with bytes, end to end: the first stage that fails decides the fault, and the answer is what
memory held before the release. -/

namespace GuestBoundary

open Program

namespace Context

variable {context : Context}

/-- How bytes are placed for a call, and the store after it. No bytes are placed nowhere. -/
inductive Places (context : Context) (bytes : List UInt8) (store : Store) :
    Except Fault Buffer → Store → Prop
  | nothing : bytes = [] → Places context bytes store (.ok .nothing) store
  | copied {buffer : Buffer} {placed : Store} : bytes ≠ [] →
      context.perform (copyIn bytes) store = some (.ok buffer, placed) →
      Places context bytes store (.ok buffer) (placed.note (.opened buffer.span))
  | failed {fault : Fault} {left : Store} : bytes ≠ [] →
      context.perform (copyIn bytes) store = some (.error fault, left) →
      Places context bytes store (.error fault) left

/-- How placed bytes are given back after a call, and the store after it. -/
inductive GivesBack (context : Context) (bytes : List UInt8) (buffer : Buffer) (store : Store) :
    Except Fault Unit → Store → Prop
  | nothing : bytes = [] → GivesBack context bytes buffer store (.ok ()) store
  | released {outcome : Except Fault Unit} {left : Store} : bytes ≠ [] →
      context.perform (release buffer) (store.note (.closing buffer.span)) =
        some (outcome, left) →
      GivesBack context bytes buffer store outcome left

/-- A result list of a form gives the bytes of a span inside memory, as memory holds them now. -/
def answerBytes (form : ResultForm) (values : List Value) (memory : Region) :
    Except Fault (List UInt8) :=
  match Span.ofForm? form values with
  | none => .error (.malformedResult (.wrongForm form values))
  | some span => memory.read span.pointer span.length

/--
The ends of a call with bytes, one for each stage that can fail and one for an answer.

The stages come in the order of the constructors. Once bytes are placed they are given back at every
end, and how that goes counts only if nothing failed before it.
-/
inductive CallEnds (context : Context) (name : String) (bytes : List UInt8) (form : ResultForm)
    (store : Store) : Except Fault (List UInt8) → Store → Prop
  /-- The bytes could not be placed. -/
  | notPlaced {fault : Fault} {left : Store} :
      Places context bytes store (.error fault) left →
      CallEnds context name bytes form store (.error fault) left
  /-- The export was turned down, or it failed. -/
  | callFailed {buffer : Buffer} {placed called left : Store} {fault : Fault}
      {released : Except Fault Unit} :
      Places context bytes store (.ok buffer) placed →
      context.invoke name buffer.span.pair placed = some (.error fault, called) →
      GivesBack context bytes buffer called released left →
      CallEnds context name bytes form store (.error fault) left
  /-- The results do not have the shape of the form. -/
  | malformed {buffer : Buffer} {placed called left : Store} {values : List Value}
      {released : Except Fault Unit} :
      Places context bytes store (.ok buffer) placed →
      context.invoke name buffer.span.pair placed = some (.ok values, called) →
      (∀ span : Span, values ≠ span.results form) →
      GivesBack context bytes buffer called released left →
      CallEnds context name bytes form store (.error (.malformedResult (.wrongForm form values)))
        left
  /-- The span in the results does not lie inside memory as the call left it. -/
  | outside {buffer : Buffer} {placed called left : Store} {span : Span}
      {released : Except Fault Unit} :
      Places context bytes store (.ok buffer) placed →
      context.invoke name buffer.span.pair placed = some (.ok (span.results form), called) →
      called.memory.size < span.pointer.toNat + span.length.toNat →
      GivesBack context bytes buffer called released left →
      CallEnds context name bytes form store
        (.error (.outOfBounds span.pointer.toNat span.length.toNat called.memory.size)) left
  /-- The answer was there, but the bytes could not be given back. -/
  | notReleased {buffer : Buffer} {placed called left : Store} {span : Span} {fault : Fault} :
      Places context bytes store (.ok buffer) placed →
      context.invoke name buffer.span.pair placed = some (.ok (span.results form), called) →
      span.pointer.toNat + span.length.toNat ≤ called.memory.size →
      GivesBack context bytes buffer called (.error fault) left →
      CallEnds context name bytes form store (.error fault) left
  /-- The answer is what memory held in the span before the bytes were given back. -/
  | answered {buffer : Buffer} {placed called left : Store} {span : Span} :
      Places context bytes store (.ok buffer) placed →
      context.invoke name buffer.span.pair placed = some (.ok (span.results form), called) →
      span.pointer.toNat + span.length.toNat ≤ called.memory.size →
      GivesBack context bytes buffer called (.ok ()) left →
      CallEnds context name bytes form store
        (.ok (called.memory.bytesAt span.pointer.toNat span.length.toNat)) left

/-- Reading a result copies its bytes out and leaves the store as it is. -/
theorem perform_readResult (sees : context.SeesMemory) (values : List Value) (form : ResultForm)
    (store : Store) :
    context.perform (readResult values form) store =
      some (answerBytes form values store.memory, store) := by
  -- The span is checked before it is read, against the same memory.
  simp only [readResult, ResultForm.readSpan, answerBytes, perform_bind, perform_settle]
  cases Span.ofForm? form values with
  | none => rfl
  | some span =>
    simp only [guestBuffer, readBytes, perform_bind, perform_resolve sees, perform_size sees,
      perform_settle]
    by_cases inside : span.pointer.toNat + span.length.toNat ≤ store.memory.size
    · rw [Region.checkRange_ok inside]
      simp only [perform_pure, perform_read sees]
    · rw [Region.checkRange_error (by omega), Region.read_outside (by omega)]

/-- A result list that carries a span is answered with what memory holds there. -/
theorem answerBytes_results (form : ResultForm) (span : Span) (memory : Region) :
    answerBytes form (span.results form) memory = memory.read span.pointer span.length := by
  -- The span that was written is the one that is read.
  rw [answerBytes, Span.ofForm?_eq_some_iff.mpr rfl]

/-- A result list that carries no span of the form is malformed. -/
theorem answerBytes_shapeless {form : ResultForm} {values : List Value}
    (shapeless : ∀ span : Span, values ≠ span.results form) (memory : Region) :
    answerBytes form values memory = .error (.malformedResult (.wrongForm form values)) := by
  -- Were a span read from the list, the list would carry that span.
  have unread : Span.ofForm? form values = none :=
    Option.eq_none_iff_forall_ne_some.mpr fun span read =>
      shapeless span (Span.ofForm?_eq_some_iff.mp read)
  rw [answerBytes, unread]

/-- A call of an export fails as the call does, and otherwise as the copy of its answer does. -/
theorem perform_callReturningBytes (sees : context.SeesMemory) (name : String)
    (arguments : List Value) (form : ResultForm) (store : Store) :
    context.perform (callReturningBytes name arguments form) store =
      match context.invoke name arguments store with
      | none => none
      | some (.ok values, called) => some (answerBytes form values called.memory, called)
      | some (.error fault, called) => some (.error fault, called) := by
  -- The answer is only read after a call that succeeded.
  simp only [callReturningBytes, perform_bind, perform_invoke]
  rcases context.invoke name arguments store with _ | ⟨_ | values, called⟩
  · rfl
  · rfl
  · exact perform_readResult sees values form called

/-- A call with bytes places them, calls the export with their span, and gives them back. -/
theorem perform_callWithBytes_iff {name : String} {bytes : List UInt8} {form : ResultForm}
    {store left : Store} {outcome : Except Fault (List UInt8)} :
    context.perform (callWithBytes name bytes form) store = some (outcome, left) ↔
      (∃ fault, Places context bytes store (.error fault) left ∧ outcome = .error fault) ∨
      (∃ buffer placed result called released,
        Places context bytes store (.ok buffer) placed ∧
        context.perform (callReturningBytes name buffer.span.pair form) placed =
          some (result, called) ∧
        GivesBack context bytes buffer called released left ∧
        outcome = scopeOutcome result released) := by
  -- Without bytes there is no scope, and the call is all there is.
  by_cases empty : bytes = []
  · rw [callWithBytes, withGuestBytes, if_pos empty]
    constructor
    · intro performed
      refine .inr ⟨_, _, _, _, _, .nothing empty, performed, .nothing empty, ?_⟩
      cases outcome <;> rfl
    · rintro (⟨fault, placing, rfl⟩ | ⟨buffer, placed, result, called, released, placing, ran, giving, rfl⟩)
      · cases placing with
        | failed nonempty => exact absurd empty nonempty
      · cases placing with
        | copied nonempty => exact absurd empty nonempty
        | nothing =>
          cases giving with
          | released nonempty => exact absurd empty nonempty
          | nothing =>
            refine ran.trans ?_
            cases result <;> rfl
  · rw [callWithBytes, perform_withGuestBytes_iff empty]
    constructor
    · rintro (⟨fault, copied, rfl⟩ | ⟨buffer, placed, result, called, released, copied, ran, gaveBack, rfl⟩)
      · exact .inl ⟨fault, .failed empty copied, rfl⟩
      · exact .inr ⟨buffer, _, result, called, released, .copied empty copied, ran,
          .released empty gaveBack, rfl⟩
    · rintro (⟨fault, placing, rfl⟩ | ⟨buffer, placed, result, called, released, placing, ran, giving, rfl⟩)
      · cases placing with
        | failed _ copied => exact .inl ⟨fault, copied, rfl⟩
      · cases placing with
        | nothing none => exact absurd none empty
        | copied _ copied =>
          cases giving with
          | nothing none => exact absurd none empty
          | released _ gaveBack =>
            exact .inr ⟨buffer, _, result, called, released, copied, ran, gaveBack, rfl⟩

/-- The ways in which a call with bytes ends are exactly those of its stages. -/
theorem callEnds_iff (sees : context.SeesMemory) {name : String} {bytes : List UInt8}
    {form : ResultForm} {store left : Store} {outcome : Except Fault (List UInt8)} :
    context.perform (callWithBytes name bytes form) store = some (outcome, left) ↔
      CallEnds context name bytes form store outcome left := by
  rw [perform_callWithBytes_iff]
  constructor
  · rintro (⟨fault, placing, rfl⟩ | ⟨buffer, placed, result, called, released, placing, ran, giving, rfl⟩)
    · exact .notPlaced placing
    · rw [perform_callReturningBytes sees] at ran
      split at ran
      · cases ran
      · rename_i values stopped invoked
        cases ran
        -- The shape of the results comes before their bounds, and both before the release.
        by_cases shaped : ∃ span : Span, values = span.results form
        · obtain ⟨span, rfl⟩ := shaped
          rw [answerBytes_results]
          by_cases inside : span.pointer.toNat + span.length.toNat ≤ called.memory.size
          · rw [Region.read_inside inside]
            cases released with
            | ok _ => exact .answered placing invoked inside giving
            | error fault => exact .notReleased placing invoked inside giving
          · have outside : called.memory.size < span.pointer.toNat + span.length.toNat := by omega
            rw [Region.read_outside outside]
            exact .outside placing invoked outside giving
        · have shapeless (span : Span) : values ≠ span.results form :=
            fun same => shaped ⟨span, same⟩
          rw [answerBytes_shapeless shapeless]
          exact .malformed placing invoked shapeless giving
      · rename_i fault stopped invoked
        cases ran
        exact .callFailed placing invoked giving
  · -- Each end says what its stages did, which is what the call does.
    intro ends
    cases ends with
    | notPlaced placing => exact .inl ⟨_, placing, rfl⟩
    | callFailed placing invoked giving =>
      refine .inr ⟨_, _, .error _, _, _, placing, ?_, giving, rfl⟩
      rw [perform_callReturningBytes sees, invoked]
    | malformed placing invoked shapeless giving =>
      refine .inr ⟨_, _, .error _, _, _, placing, ?_, giving, rfl⟩
      rw [perform_callReturningBytes sees, invoked]
      simp only [answerBytes_shapeless shapeless]
    | outside placing invoked outside giving =>
      refine .inr ⟨_, _, .error _, _, _, placing, ?_, giving, rfl⟩
      rw [perform_callReturningBytes sees, invoked]
      simp only [answerBytes_results, Region.read_outside outside]
    | @notReleased _ _ called _ span _ placing invoked inside giving =>
      refine .inr ⟨_, _, .ok (called.memory.bytesAt span.pointer.toNat span.length.toNat), _, _,
        placing, ?_, giving, rfl⟩
      rw [perform_callReturningBytes sees, invoked]
      simp only [answerBytes_results, Region.read_inside inside]
    | answered placing invoked inside giving =>
      refine .inr ⟨_, _, .ok _, _, _, placing, ?_, giving, rfl⟩
      rw [perform_callReturningBytes sees, invoked]
      simp only [answerBytes_results, Region.read_inside inside]

/-- Bytes that were placed read back from their span. -/
theorem Places.read (sees : context.SeesMemory) {bytes : List UInt8} {store placed : Store}
    {buffer : Buffer} (placing : Places context bytes store (.ok buffer) placed) :
    placed.memory.read buffer.pointer buffer.length = .ok bytes := by
  -- The empty buffer reads as no bytes, and the note of a scope does not touch memory.
  cases placing with
  | nothing empty =>
    subst empty
    exact Region.read_inside (Nat.zero_le _)
  | copied _ copied => exact (copyIn_ok sees copied).2

/-- The functions that the name of the deallocator leads to. -/
def Frees (context : Context) (id : String) : Prop :=
  ∃ name type, context.linked.conventions.freeExport = some name ∧
    context.function? name = some (id, type)

/-- A name that does not lead to the deallocator. -/
def Spares (context : Context) (name : String) : Prop :=
  ∀ id type, context.function? name = some (id, type) → ¬ context.Frees id

/-- A call by name enters the function that is exported under the name. -/
theorem prepare_ok {name id : String} {arguments passed : List Value}
    (prepared : context.prepare name arguments = .ok (id, passed)) :
    ∃ type, context.function? name = some (id, type) := by
  -- What is checked after the name is found can only turn the call down.
  unfold prepare at prepared
  split at prepared
  · cases prepared
  · rename_i own type found
    split at prepared
    · cases prepared
    · rename_i signature _
      cases checked : checkArguments name signature arguments with
      | error fault =>
        rw [checked] at prepared
        cases prepared
      | ok coerced =>
        rw [checked] at prepared
        cases prepared
        exact ⟨type, found⟩

section

variable {call : String → List Value → Run (List Value)}

/-- A call by a name that spares the deallocator is the same whatever the deallocator does. -/
theorem invoke_congr (agree : ∀ id, ¬ context.Frees id → call id = context.call id)
    {name : String} (spares : context.Spares name) (arguments : List Value) (store : Store) :
    ({ context with call } : Context).invoke name arguments store =
      context.invoke name arguments store := by
  -- The checks do not depend on what functions do, and the function entered is not the deallocator.
  have same : ({ context with call } : Context).prepare name arguments =
      context.prepare name arguments := rfl
  unfold invoke
  rw [same]
  cases prepared : context.prepare name arguments with
  | error fault => rfl
  | ok entry =>
    obtain ⟨id, passed⟩ := entry
    obtain ⟨type, found⟩ := prepare_ok prepared
    simp only [agree id (spares id type found)]

/-- Copying in is the same whatever the deallocator does, since bytes that are placed always fit. -/
theorem copyIn_congr (sees : context.SeesMemory)
    (agree : ∀ id, ¬ context.Frees id → call id = context.call id)
    (spares : context.Spares context.linked.conventions.allocExport) (bytes : List UInt8)
    (store : Store) :
    ({ context with call } : Context).perform (copyIn bytes) store =
      context.perform (copyIn bytes) store := by
  -- All that copying in calls is the allocator.
  have shown : ({ context with call } : Context).SeesMemory := sees
  by_cases short : bytes.length < UInt32.size
  · rw [perform_copyIn shown short, perform_copyIn sees short]
    by_cases zero : UInt32.ofNat bytes.length = 0
    · simp only [allocate, if_pos zero, perform_fail]
    · rw [perform_allocate shown zero, perform_allocate sees zero, invoke_congr agree spares]
  · simp only [copyIn, if_neg short, perform_fail]

/-- Bytes are placed in the same way whatever the deallocator does. -/
theorem places_congr (sees : context.SeesMemory)
    (agree : ∀ id, ¬ context.Frees id → call id = context.call id)
    (spares : context.Spares context.linked.conventions.allocExport) {bytes : List UInt8}
    {store placed : Store} {outcome : Except Fault Buffer} :
    Places { context with call } bytes store outcome placed ↔
      Places context bytes store outcome placed := by
  -- Both ways, a placing is a copy that the other context makes too.
  have copies := copyIn_congr sees agree spares bytes store
  constructor
  · intro placing
    cases placing with
    | nothing empty => exact .nothing empty
    | copied nonempty copied => exact .copied nonempty (copies ▸ copied)
    | failed nonempty failed => exact .failed nonempty (copies ▸ failed)
  · intro placing
    cases placing with
    | nothing empty => exact .nothing empty
    | copied nonempty copied => exact .copied nonempty (copies.trans copied)
    | failed nonempty failed => exact .failed nonempty (copies.trans failed)

/-- Bytes are placed in one way. -/
theorem Places.unique {bytes : List UInt8} {store first second : Store}
    {outcome other : Except Fault Buffer} (one : Places context bytes store outcome first)
    (two : Places context bytes store other second) : outcome = other ∧ first = second := by
  -- Whether there are bytes is one question, and copying in has one outcome.
  cases one with
  | nothing empty =>
    cases two with
    | nothing => exact ⟨rfl, rfl⟩
    | copied nonempty => exact absurd empty nonempty
    | failed nonempty => exact absurd empty nonempty
  | copied nonempty copied =>
    cases two with
    | nothing empty => exact absurd empty nonempty
    | copied _ again =>
      rw [copied] at again
      cases again
      exact ⟨rfl, rfl⟩
    | failed _ again =>
      rw [copied] at again
      cases again
  | failed nonempty failed =>
    cases two with
    | nothing empty => exact absurd empty nonempty
    | copied _ again =>
      rw [failed] at again
      cases again
    | failed _ again =>
      rw [failed] at again
      cases again
      exact ⟨rfl, rfl⟩

/-- A release that succeeds does so with every deallocator that returns. -/
theorem release_ok_of_returns
    (returns : ∀ id, context.Frees id → ∀ arguments store, ∃ values left,
      call id arguments store = some (.ok values, left))
    {buffer : Buffer} (owned : buffer.owner = .hostOwned) {store left : Store}
    (released : context.perform (release buffer) store = some (.ok (), left)) :
    ∃ left, ({ context with call } : Context).perform (release buffer) store =
      some (.ok (), left) := by
  -- Up to the call the two releases agree, and a call that was made once is made again.
  have same (name : String) : ({ context with call } : Context).function? name =
      context.function? name := rfl
  rw [perform_release owned] at released ⊢
  cases freed : context.linked.conventions.freeExport with
  | none => exact ⟨store, rfl⟩
  | some name =>
    simp only [freed, same] at released ⊢
    cases found : context.function? name with
    | none => exact ⟨store, rfl⟩
    | some function =>
      obtain ⟨id, type⟩ := function
      simp only [found] at released ⊢
      cases declared : type.signature? with
      | none => simp [declared] at released
      | some signature =>
        simp only [declared] at released ⊢
        cases taken : deallocatorArguments name buffer signature.arity with
        | error fault => simp [taken] at released
        | ok arguments =>
          simp only [taken] at released ⊢
          cases prepared : context.prepare name arguments with
          | error fault => simp [invoke, prepared] at released
          | ok entry =>
            -- The call that is prepared enters the deallocator, which returns.
            obtain ⟨entered, passed⟩ := entry
            obtain ⟨_, again⟩ := prepare_ok prepared
            have frees : context.Frees entered := ⟨name, _, freed, again⟩
            obtain ⟨values, after, returned⟩ := returns entered frees passed store
            have prepares : ({ context with call } : Context).prepare name arguments =
              .ok (entered, passed) := prepared
            refine ⟨after, ?_⟩
            simp only [invoke, prepares, Run.surface, returned]
            rfl

/-- Bytes that are given back with success are so with every deallocator that returns. -/
theorem GivesBack.of_returns (sees : context.SeesMemory)
    (returns : ∀ id, context.Frees id → ∀ arguments store, ∃ values left,
      call id arguments store = some (.ok values, left))
    {bytes : List UInt8} {buffer : Buffer} {store placed called left : Store}
    (placing : Places context bytes store (.ok buffer) placed)
    (giving : GivesBack context bytes buffer called (.ok ()) left) :
    ∃ left, GivesBack { context with call } bytes buffer called (.ok ()) left := by
  -- Placed bytes are in a buffer that the host owns, so it may release it.
  cases giving with
  | nothing empty => exact ⟨called, .nothing empty⟩
  | released nonempty released =>
    cases placing with
    | nothing empty => exact absurd empty nonempty
    | copied _ copied =>
      obtain ⟨owned, _⟩ := copyIn_ok sees copied
      obtain ⟨after, again⟩ := release_ok_of_returns returns owned released
      exact ⟨after, .released nonempty again⟩

end

/--
A call with bytes, end to end.

It ends in the ways of its stages and in no others, so the first stage that fails decides the fault
and the answer is what memory held before the release. The answer therefore does not depend on what
the deallocator does to memory. An export that returns its own span, with the bytes still there, gives
back every input.
-/
theorem callWithBytes_end_to_end (sees : context.SeesMemory) (name : String) (bytes : List UInt8)
    (form : ResultForm) (store : Store) :
    (∀ outcome left,
      context.perform (callWithBytes name bytes form) store = some (outcome, left) ↔
        CallEnds context name bytes form store outcome left) ∧
    (∀ call : String → List Value → Run (List Value),
      (∀ id, ¬ context.Frees id → call id = context.call id) →
      context.Spares context.linked.conventions.allocExport → context.Spares name →
      ∀ answer left,
        context.perform (callWithBytes name bytes form) store = some (.ok answer, left) →
        (∀ other left, ({ context with call } : Context).perform (callWithBytes name bytes form)
          store = some (.ok other, left) → other = answer) ∧
        ((∀ id, context.Frees id → ∀ arguments store, ∃ values left,
            call id arguments store = some (.ok values, left)) →
          ∃ left, ({ context with call } : Context).perform (callWithBytes name bytes form) store =
            some (.ok answer, left))) ∧
    (∀ buffer placed called left, Places context bytes store (.ok buffer) placed →
      context.invoke name buffer.span.pair placed = some (.ok (buffer.span.results form), called) →
      called.memory.read buffer.pointer buffer.length =
        placed.memory.read buffer.pointer buffer.length →
      GivesBack context bytes buffer called (.ok ()) left →
      context.perform (callWithBytes name bytes form) store = some (.ok bytes, left)) := by
  -- The ends are known, so the other two parts only compare and build them.
  refine ⟨fun outcome left => callEnds_iff sees,
    fun call agree sparesAllocator sparesName answer left performed => ?_,
    fun buffer placed called left placing invoked kept giving => ?_⟩
  · have shown : ({ context with call } : Context).SeesMemory := sees
    cases (callEnds_iff sees).mp performed with
    | answered placing invoked inside giving =>
      -- The other context comes as far as the release in the same way.
      have placed := (places_congr sees agree sparesAllocator).mpr placing
      have calls := (invoke_congr agree sparesName _ _).trans invoked
      refine ⟨fun other left performed => ?_, fun returns => ?_⟩
      · cases (callEnds_iff shown).mp performed with
        | answered placing invoked =>
          obtain ⟨same, rfl⟩ := Places.unique placing placed
          cases same
          simp only [calls, Option.some.injEq, Prod.mk.injEq, Except.ok.injEq] at invoked
          obtain ⟨shape, rfl⟩ := invoked
          cases Span.results_injective form shape
          rfl
      · obtain ⟨after, again⟩ := giving.of_returns sees returns placing
        exact ⟨after, (callEnds_iff shown).mpr (.answered placed calls inside again)⟩
  · -- What is read back from the span is what was placed there.
    obtain ⟨inside, same⟩ := Region.read_ok (kept.trans (placing.read sees))
    have performed := (callEnds_iff sees).mpr (.answered placing invoked inside giving)
    exact same ▸ performed

/-- The deallocator of the sample guest overwrites the answer, and a host that leaves it out gives the
same one: the bytes that went in. -/
theorem callWithBytes_end_to_end_echo :
    (∃ left, (Sample.context Sample.descend).perform (callWithBytes "echo" [1, 2, 3] .packed)
      (Sample.inst Sample.descend).store = some (.ok [1, 2, 3], left) ∧
      left.memory.bytesAt 16 3 = [0, 0, 0]) ∧
    (∃ left, ({ Sample.context Sample.descend with
        call := fun id arguments => if id = "wipe" then pure [] else
          (Sample.context Sample.descend).call id arguments } : Context).perform
      (callWithBytes "echo" [1, 2, 3] .packed) (Sample.inst Sample.descend).store =
        some (.ok [1, 2, 3], left)) := by
  have sees : (Sample.context Sample.descend).SeesMemory :=
    Linked.context_seesMemory (Sample.links _) _ _ _
  obtain ⟨_, independent, echoes⟩ := callWithBytes_end_to_end sees "echo" [1, 2, 3] .packed
    (Sample.inst Sample.descend).store
  have placing : Places (Sample.context Sample.descend) [1, 2, 3]
      (Sample.inst Sample.descend).store (.ok ⟨⟨16, 3⟩, .hostOwned⟩) _ :=
    .copied (by decide) rfl
  have answered := echoes _ _ _ _ placing rfl rfl (.released (by decide) rfl)
  have wiper : (Sample.context Sample.descend).function? "free" =
    some ("wipe", Sample.deallocator.type) := rfl
  have onlyWipes {id : String} (frees : (Sample.context Sample.descend).Frees id) :
      id = "wipe" := by
    obtain ⟨name, type, named, found⟩ := frees
    cases named
    rw [wiper] at found
    cases found
    rfl
  have spares {name id : String} {type : Wasm.FuncType} (other : id ≠ "wipe")
      (found : (Sample.context Sample.descend).function? name = some (id, type)) :
      (Sample.context Sample.descend).Spares name := by
    intro own _ again frees
    rw [found] at again
    cases again
    exact other (onlyWipes frees)
  refine ⟨⟨_, answered, rfl⟩, ?_⟩
  refine (independent _ ?_ (spares (by decide) rfl) (spares (by decide) rfl) _ _ answered).2 ?_
  · intro id kept
    have other : id ≠ "wipe" := by
      rintro rfl
      exact kept ⟨"free", _, rfl, wiper⟩
    simp only [if_neg other]
  · intro id frees arguments store
    cases onlyWipes frees
    exact ⟨[], store, rfl⟩

end Context

end GuestBoundary
