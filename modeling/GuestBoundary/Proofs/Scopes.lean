import GuestBoundary.Proofs.Linking
import GuestBoundary.Proofs.Programs
import GuestBoundary.Proofs.Requests
import GuestBoundary.Proofs.Sample

/-! Scopes: a body runs once between the placing and the releasing of its bytes, and over every run
the scopes of all programs open and close like brackets. -/

namespace GuestBoundary

open Program

variable {α β : Type}

namespace Program

/-- A program that enters no note in the journal, whatever it is replied. -/
def Unnoted : Program α → Prop
  | .done _ => True
  | .fail _ => True
  | .ask request resume => (∀ event, request ≠ .note event) ∧ ∀ reply, (resume reply).Unnoted

theorem unnoted_settle (outcome : Except Fault α) : (settle outcome).Unnoted := by
  cases outcome <;> trivial

/-- A sequence of programs without notes has none. -/
theorem unnoted_bind {program : Program α} {next : α → Program β} (first : program.Unnoted)
    (rest : ∀ value, (next value).Unnoted) : (program >>= next).Unnoted := by
  -- The sequence asks what its first part asks, and then goes on as the rest does.
  induction program with
  | done value => exact rest value
  | fail fault => trivial
  | ask request resume ih => exact ⟨first.1, fun reply => ih reply (first.2 reply)⟩

/-- Requests that concern the instance are no notes. -/
theorem Asks.unnoted {program : Program α} (asks : program.Asks Request.OfInstance) :
    program.Unnoted := by
  induction program with
  | done value => trivial
  | fail fault => trivial
  | ask request resume ih =>
    refine ⟨fun event noted => ?_, fun reply => ih reply (asks.2 reply)⟩
    subst noted
    exact asks.1

theorem unnoted_invoke (name : String) (arguments : List Value) :
    (invoke name arguments).Unnoted := (asks_invoke name arguments).unnoted

/--
A program whose notes all come from scopes.

Scopes may stand anywhere in it, also in the bodies of other scopes, after them, and in what is
attempted.
-/
inductive Scoped : {α : Type} → Program α → Prop
  | plain {α : Type} {program : Program α} : program.Unnoted → Scoped program
  | bind {α β : Type} {program : Program α} {next : α → Program β} :
      Scoped program → (∀ value, Scoped (next value)) → Scoped (program >>= next)
  | attempt {α : Type} {program : Program α} : Scoped program → Scoped program.attempt
  | scope {α : Type} (bytes : List UInt8) {body : Buffer → Program α} :
      (∀ buffer, Scoped (body buffer)) → Scoped (withGuestBytes bytes body)

end Program

/-- Notes, newest first, in which every scope that opens closes, and later ones before it does. -/
inductive Bracketed : Journal → Prop
  | nil : Bracketed []
  | scope {span : Span} {inner before : Journal} : Bracketed inner → Bracketed before →
      Bracketed (.closing span :: (inner ++ .opened span :: before))

/-- Brackets may follow brackets. -/
theorem Bracketed.append {later earlier : Journal} (second : Bracketed later)
    (first : Bracketed earlier) : Bracketed (later ++ earlier) := by
  -- By induction on the later brackets, of which the last one is the oldest.
  induction second with
  | nil => exact first
  | scope inner _ _ ih =>
    rw [List.cons_append, List.append_assoc, List.cons_append]
    exact .scope inner ih

/-- The notes between two stores are brackets. -/
def ScopesClose (store left : Store) : Prop :=
  ∃ notes, left.journal = notes ++ store.journal ∧ Bracketed notes

theorem scopesClose_composes : Run.Composes ScopesClose where
  refl _ := ⟨[], rfl, .nil⟩
  trans := by
    rintro first second third ⟨early, entered, earlyBrackets⟩ ⟨late, added, lateBrackets⟩
    exact ⟨late ++ early, by rw [added, entered, List.append_assoc], lateBrackets.append earlyBrackets⟩

/-- A store with the same journal has no notes to bracket. -/
theorem scopesClose_of_journal {store left : Store} (same : left.journal = store.journal) :
    ScopesClose store left := ⟨[], same, .nil⟩

theorem Wasm.GuestStep.scopesClose {maxPages : Nat} {store left : Store}
    (step : Wasm.GuestStep maxPages store left) : ScopesClose store left := by
  cases step <;> exact scopesClose_of_journal rfl

theorem HostStep.scopesClose {store left : Store} (step : HostStep store left) :
    ScopesClose store left := by
  cases step <;> exact scopesClose_of_journal rfl

/-- How a scope ends: a fault of its body counts first, then one of the release. -/
def scopeOutcome (result : Except Fault α) (released : Except Fault Unit) : Except Fault α :=
  match result, released with
  | .error fault, _ => .error fault
  | .ok _, .error fault => .error fault
  | .ok value, .ok () => .ok value

namespace Context

variable {context : Context}

/-- A scope copies its bytes in, and only if that succeeds runs its body on the buffer and then
attempts to release that buffer. -/
theorem perform_withGuestBytes {bytes : List UInt8} (nonempty : bytes ≠ [])
    (body : Buffer → Program α) (store : Store) :
    context.perform (withGuestBytes bytes body) store =
      match context.perform (copyIn bytes) store with
      | none => none
      | some (.error fault, left) => some (.error fault, left)
      | some (.ok buffer, placed) =>
        match context.perform (body buffer) (placed.note (.opened buffer.span)) with
        | none => none
        | some (result, finished) =>
          match context.perform (release buffer) (finished.note (.closing buffer.span)) with
          | none => none
          | some (released, left) => some (scopeOutcome result released, left) := by
  -- The steps are taken one by one, and each of them may have no end.
  rw [withGuestBytes, if_neg nonempty, perform_bind]
  cases context.perform (copyIn bytes) store with
  | none => rfl
  | some ended =>
    obtain ⟨outcome, placed⟩ := ended
    cases outcome with
    | error fault => rfl
    | ok buffer =>
      simp only [perform_bind, perform_note, perform_attempt]
      cases context.perform (body buffer) (placed.note (.opened buffer.span)) with
      | none => rfl
      | some ran =>
        obtain ⟨result, finished⟩ := ran
        -- The release is attempted in both cases, and the two differ in whose fault counts.
        cases result with
        | ok value =>
          simp only [perform_bind]
          rcases context.perform (release buffer) (finished.note (.closing buffer.span)) with
            _ | ⟨_ | _, _⟩ <;> rfl
        | error fault =>
          simp only [perform_bind, releaseAfterFailure, perform_attempt]
          rcases context.perform (release buffer) (finished.note (.closing buffer.span)) with
            _ | ⟨_ | _, _⟩ <;> rfl

/-- The two ways in which a scope ends: without its bytes placed, or with one attempt to release
them. -/
theorem perform_withGuestBytes_iff {bytes : List UInt8} (nonempty : bytes ≠ [])
    {body : Buffer → Program α} {store left : Store} {outcome : Except Fault α} :
    context.perform (withGuestBytes bytes body) store = some (outcome, left) ↔
      (∃ fault, context.perform (copyIn bytes) store = some (.error fault, left) ∧
        outcome = .error fault) ∨
      (∃ buffer placed result finished released,
        context.perform (copyIn bytes) store = some (.ok buffer, placed) ∧
        context.perform (body buffer) (placed.note (.opened buffer.span)) =
          some (result, finished) ∧
        context.perform (release buffer) (finished.note (.closing buffer.span)) =
          some (released, left) ∧
        outcome = scopeOutcome result released) := by
  -- A scope that has an end went through the steps, and steps that all have ends make one.
  rw [perform_withGuestBytes nonempty]
  constructor
  · intro performed
    split at performed
    · cases performed
    · rename_i fault stopped copied
      cases performed
      exact .inl ⟨fault, copied, rfl⟩
    · rename_i buffer placed copied
      split at performed
      · cases performed
      · rename_i result finished ran
        split at performed
        · cases performed
        · rename_i released stopped gaveBack
          cases performed
          exact .inr ⟨buffer, placed, result, finished, released, copied, ran, gaveBack, rfl⟩
  · rintro (⟨fault, copied, rfl⟩ | ⟨buffer, placed, result, finished, released, copied, ran, gaveBack, rfl⟩)
    · simp only [copied]
    · simp only [copied, ran, gaveBack]

/-- Without notes, a program keeps the brackets wherever calls keep them. -/
theorem unnoted_keeps (calls : context.CallsKeep ScopesClose) {program : Program α}
    (unnoted : program.Unnoted) : context.Keeps ScopesClose program := by
  -- The program's own requests enter no notes, so all there are come from calls.
  induction program with
  | done value =>
    rintro store outcome left ⟨⟩
    exact scopesClose_composes.refl store
  | fail fault =>
    rintro store outcome left ⟨⟩
    exact scopesClose_composes.refl store
  | ask request resume ih =>
    intro store outcome left performed
    simp only [perform] at performed
    split at performed
    · cases performed
    · rename_i reply middle answered
      exact scopesClose_composes.trans
        (answer_keeps scopesClose_composes calls (fun step => step.scopesClose) unnoted.1 answered)
        (ih reply (unnoted.2 reply) middle outcome left performed)

/-- A scope whose body keeps the brackets adds one pair around those of its body. -/
theorem withGuestBytes_keeps (calls : context.CallsKeep ScopesClose) (bytes : List UInt8)
    {body : Buffer → Program α} (bodies : ∀ buffer, context.Keeps ScopesClose (body buffer)) :
    context.Keeps ScopesClose (withGuestBytes bytes body) := by
  -- What runs before, inside and after the scope is bracketed, and the scope is one more pair.
  intro store outcome left performed
  by_cases empty : bytes = []
  · rw [withGuestBytes, if_pos empty] at performed
    exact bodies .nothing store outcome left performed
  · rcases (perform_withGuestBytes_iff empty).mp performed with
      ⟨fault, copied, _⟩ | ⟨buffer, placed, result, finished, released, copied, ran, gaveBack, _⟩
    · exact unnoted_keeps calls (asks_copyIn bytes).unnoted _ _ _ copied
    · obtain ⟨before, copying, beforeBrackets⟩ :=
        unnoted_keeps calls (asks_copyIn bytes).unnoted _ _ _ copied
      obtain ⟨inner, running, innerBrackets⟩ := bodies buffer _ _ _ ran
      obtain ⟨after, releasing, afterBrackets⟩ :=
        unnoted_keeps calls (asks_release buffer).unnoted _ _ _ gaveBack
      -- Newest first: what the release ran, the scope around its body, what copying in ran.
      refine ⟨after ++ .closing buffer.span :: (inner ++ .opened buffer.span :: before), ?_,
        afterBrackets.append (.scope innerBrackets beforeBrackets)⟩
      simp [releasing, running, copying, Store.note]

/-- A program whose notes all come from scopes keeps the brackets wherever calls keep them. -/
theorem scoped_keeps (calls : context.CallsKeep ScopesClose) {program : Program α}
    (built : program.Scoped) : context.Keeps ScopesClose program := by
  -- By induction on how the program is built, which need not be how it runs.
  induction built with
  | plain unnoted => exact unnoted_keeps calls unnoted
  | bind _ _ first rest =>
    intro store outcome left performed
    rw [perform_bind] at performed
    split at performed
    · cases performed
    · rename_i value middle ran
      exact scopesClose_composes.trans (first _ _ _ ran) (rest value _ _ _ performed)
    · rename_i fault stopped ran
      cases performed
      exact first _ _ _ ran
  | attempt _ first =>
    intro store outcome left performed
    rw [perform_attempt] at performed
    split at performed
    · cases performed
    · rename_i result stopped ran
      cases performed
      exact first _ _ _ ran
  | scope bytes _ bodies => exact withGuestBytes_keeps calls bytes bodies

end Context

/-- A host function whose notes all come from scopes, whatever its arguments are. -/
def HostFunction.Scoped (host : HostFunction) : Prop := ∀ arguments, (host.body arguments).Scoped

namespace Linked

/-- The notes of all host functions of a linked guest come from scopes. -/
def HostsScoped (linked : Linked) : Prop :=
  ∀ id host, linked.hosts.lookup id = some host → host.Scoped

/-- Calls bracket their scopes at every depth, through guest code and host functions alike. -/
theorem call_scopesClose {linked : Linked} (hosts : linked.HostsScoped) (patience depth : Nat)
    (caller : Caller) (id : String) (arguments : List Value) :
    (linked.call patience depth caller id arguments).Keeps ScopesClose := by
  -- The code of the guest enters no notes, and the host functions keep the brackets.
  refine Linked.call_keeps scopesClose_composes linked patience (fun step => step.scopesClose)
    (fun bound context _ calls arguments => ?_) depth caller id arguments
  -- The check of the results comes after the body and enters no notes.
  refine Context.scoped_keeps calls (.bind (hosts _ _ bound arguments) fun values => .plain ?_)
  split <;> trivial

end Linked

/--
Scoped release is exactly once and well bracketed.

No bytes need no scope: the body runs on the empty borrowed buffer and nothing else does. Otherwise
the body runs once if copying in succeeded, and then the release of that same buffer is attempted
once, however the body ended. Over every run on an instance, whether of a host program, of a function
or of an instantiation, the notes of all scopes are brackets. No notes come from anywhere else in
scripts, in the standard capabilities and in the system interface.
-/
theorem withGuestBytes_exactly_once (bytes : List UInt8) (body : Buffer → Program α) :
    (bytes = [] → withGuestBytes bytes body = body ⟨⟨0, 0⟩, .borrowed⟩) ∧
    (bytes ≠ [] → ∀ (context : Context) store outcome left,
      context.perform (withGuestBytes bytes body) store = some (outcome, left) ↔
        (∃ fault, context.perform (copyIn bytes) store = some (.error fault, left) ∧
          outcome = .error fault) ∨
        (∃ buffer placed result finished released,
          context.perform (copyIn bytes) store = some (.ok buffer, placed) ∧
          context.perform (body buffer) (placed.note (.opened buffer.span)) =
            some (result, finished) ∧
          context.perform (release buffer) (finished.note (.closing buffer.span)) =
            some (released, left) ∧
          outcome = scopeOutcome result released)) ∧
    (∀ linked : Linked, linked.HostsScoped →
      (∀ patience depth visible self (program : Program β), program.Scoped →
        ∀ store outcome left, (linked.context patience depth visible self).perform program store =
            some (outcome, left) →
          ∃ notes, left.journal = notes ++ store.journal ∧ Bracketed notes) ∧
      (∀ patience depth caller id arguments store outcome left,
        linked.call patience depth caller id arguments store = some (outcome, left) →
          ∃ notes, left.journal = notes ++ store.journal ∧ Bracketed notes) ∧
      (∀ engine store outcome left,
        Instance.begin engine linked store = some (outcome, left) →
          ∃ notes, left.journal = notes ++ store.journal ∧ Bracketed notes)) := by
  -- The steps of one scope, and then the relation that every run keeps.
  refine ⟨fun empty => if_pos empty,
    fun nonempty context store outcome left => Context.perform_withGuestBytes_iff nonempty,
    fun linked hosts => ⟨fun patience depth visible self program built => ?_,
      Linked.call_scopesClose hosts, fun engine => ?_⟩⟩
  · have calls : (linked.context patience depth visible self).CallsKeep ScopesClose :=
      Linked.call_scopesClose hosts patience depth .host
    exact Context.scoped_keeps calls built
  · exact Instance.begin_keeps scopesClose_composes engine (fun step => step.scopesClose)
      (Linked.call_scopesClose hosts _ _ .guest)

/-- The notes of the sample host function that nests scopes come from those scopes. -/
theorem Sample.nest_scoped : (Sample.linked Sample.nest).HostsScoped := by
  intro id host bound arguments
  cases List.mem_singleton.mp (Linked.mem_of_lookup bound)
  change (Sample.nest arguments).Scoped
  unfold Sample.nest
  split
  · split
    · exact .plain trivial
    · exact .scope _ fun _ => .plain (unnoted_invoke _ _)
  · exact .plain trivial

/-- Three scopes, of which two are in host functions below the body of the first, and a fault in the
innermost one: they close from the inside out. -/
theorem withGuestBytes_exactly_once_nested :
    ∃ left, (Sample.context Sample.nest).perform
        (withGuestBytes [7] fun _ => invoke "relay" [.i32 2]) (Sample.inst Sample.nest).store =
          some (.error (.engine "stop"), left) ∧
      left.journal = [.closing ⟨16, 1⟩, .closing ⟨17, 3⟩, .closing ⟨20, 3⟩,
        .opened ⟨20, 3⟩, .opened ⟨17, 3⟩, .opened ⟨16, 1⟩] ∧ Bracketed left.journal := by
  refine ⟨_, rfl, rfl, ?_⟩
  obtain ⟨_, _, brackets⟩ :=
    withGuestBytes_exactly_once (β := List Value) [7] fun _ => invoke "relay" [.i32 2]
  obtain ⟨programs, _⟩ := brackets (Sample.linked Sample.nest) Sample.nest_scoped
  obtain ⟨notes, added, bracketed⟩ := programs 16 16 true "host"
    (withGuestBytes [7] fun _ => invoke "relay" [.i32 2])
    (.scope [7] fun _ => .plain (unnoted_invoke _ _)) (Sample.inst Sample.nest).store _ _ rfl
  have fresh : (Sample.inst Sample.nest).store.journal = [] := rfl
  rw [added, fresh, List.append_nil]
  exact bracketed

end GuestBoundary
