import GuestBoundary.Proofs.Allocation
import GuestBoundary.Proofs.Annotated

/-! The moments of annotated programs: each request is one, with those of the function that it enters,
and a mark is one where the program comes to it. -/

namespace GuestBoundary

variable {α β : Type}

/-- The moments of a request, with those of the function that it enters. -/
def Context.requestMoments (context : Context) (calls : String → List Value → Store → List Moment)
    (purpose : Purpose) (request : Request) (store : Store) : List Moment :=
  match context.entered? request with
  | some (id, arguments) =>
    ⟨.entered purpose id arguments, store, store⟩ :: calls id arguments store
  | none =>
    match context.answer request store with
    | none => []
    | some (_, left) => [⟨.asked purpose request, store, left⟩]

/-- The functions that a context can call are told of. -/
def Context.CallsTold (context : Context) (calls : String → List Value → Store → List Moment) :
    Prop :=
  ∀ id arguments earlier store,
    Told context.linked earlier store (calls id arguments store) (context.call id arguments store)

namespace Annotated

/-- The moments of an annotated program that runs from a store. -/
def moments (context : Context) (calls : String → List Value → Store → List Moment) :
    Annotated α → Store → List Moment
  | .done _, _ => []
  | .fail _, _ => []
  | .ask purpose request resume, store =>
    context.requestMoments calls purpose request store ++
      match context.answer request store with
      | none => []
      | some (reply, left) => (resume reply).moments context calls left
  | .marking mark rest, store => mark.at store :: rest.moments context calls store

section

variable {context : Context} {calls : String → List Value → Store → List Moment}
  {earlier : List Moment} {store : Store}

@[simp] theorem moments_pure (value : α) :
    (pure value : Annotated α).moments context calls store = [] := rfl

@[simp] theorem moments_tell (mark : Mark) :
    (tell mark).moments context calls store = [mark.at store] := rfl

/-- A sequence has the moments of its first part, and then those of the second if there is a value to
go on with. -/
theorem moments_bind (annotated : Annotated α) (next : α → Annotated β) (store : Store) :
    (annotated >>= next).moments context calls store =
      annotated.moments context calls store ++
        following (context.perform annotated.program store) fun value left =>
          (next value).moments context calls left := by
  -- By induction on the first part, whose replies lead to the store that the second starts from.
  induction annotated generalizing store with
  | done value => rfl
  | fail fault => rfl
  | ask purpose request resume ih =>
    change (Annotated.ask purpose request fun reply => (resume reply).bind next).moments
      context calls store = _
    simp only [moments, program, Context.perform]
    cases context.answer request store with
    | none => simp [following]
    | some answered =>
      rw [List.append_assoc]
      exact congrArg _ (ih answered.1 answered.2)
  | marking mark rest ih => exact congrArg _ (ih store)

theorem moments_attempt (annotated : Annotated α) (store : Store) :
    annotated.attempt.moments context calls store = annotated.moments context calls store := by
  -- Attempting changes how a program ends, not what happens until then.
  induction annotated generalizing store with
  | done value => rfl
  | fail fault => rfl
  | ask purpose request resume ih =>
    simp only [attempt, moments]
    cases context.answer request store with
    | none => rfl
    | some answered => exact congrArg _ (ih answered.1 answered.2)
  | marking mark rest ih => exact congrArg _ (ih store)

/-- The moments of a program tell of it, from a store on and after other moments. -/
def ToldAt (context : Context) (calls : String → List Value → Store → List Moment)
    (annotated : Annotated α) (earlier : List Moment) (store : Store) : Prop :=
  Told context.linked earlier store (annotated.moments context calls store)
    (context.perform annotated.program store)

theorem toldAt_pure (value : α) : ToldAt context calls (pure value) earlier store := by
  refine told_still ?_
  rintro outcome left ⟨⟩
  rfl

theorem toldAt_fail (fault : Fault) :
    ToldAt context calls (.fail fault : Annotated α) earlier store := by
  refine told_still ?_
  rintro outcome left ⟨⟩
  rfl

/-- A mark is told of where it may stand. -/
theorem toldAt_tell {mark : Mark} (occurs : Occurs context.linked earlier (mark.at store)) :
    ToldAt context calls (tell mark) earlier store := by
  refine told_moment (mark.at store) occurs ?_
  rintro outcome left ⟨⟩
  rfl

/-- A sequence is told of part by part. -/
theorem toldAt_bind {annotated : Annotated α} {next : α → Annotated β}
    (first : ToldAt context calls annotated earlier store)
    (goesOn : ∀ value left, context.perform annotated.program store = some (.ok value, left) →
      ToldAt context calls (next value) (earlier ++ annotated.moments context calls store) left) :
    ToldAt context calls (annotated >>= next) earlier store := by
  -- The rest only runs after a value, from the store that came with it.
  unfold ToldAt
  rw [moments_bind, program_bind, Context.perform_bind]
  refine first.seq (fun endless => by rw [endless]; exact ⟨rfl, rfl⟩) fun outcome left ended => ?_
  rw [ended]
  cases outcome with
  | ok value => exact goesOn value left ended
  | error fault =>
    refine told_still ?_
    rintro outcome last ⟨⟩
    rfl

theorem toldAt_attempt {annotated : Annotated α}
    (told : ToldAt context calls annotated earlier store) :
    ToldAt context calls annotated.attempt earlier store := by
  -- Attempting a program changes neither its moments nor the store that it leaves.
  unfold ToldAt
  rw [moments_attempt, program_attempt, Context.perform_attempt]
  refine told.imp fun outcome left ended => ?_
  split at ended
  · cases ended
  · rename_i performed
    cases ended
    exact ⟨_, performed⟩

/-- A request is told of if what it enters may be entered. -/
theorem request_told (told : context.CallsTold calls) {purpose : Purpose} {request : Request}
    (enters : ∀ id arguments, context.entered? request = some (id, arguments) →
      Occurs context.linked earlier ⟨.entered purpose id arguments, store, store⟩) :
    Told context.linked earlier store (context.requestMoments calls purpose request store)
      (context.answer request store) := by
  unfold Context.requestMoments
  cases entry : context.entered? request with
  | none =>
    cases answered : context.answer request store with
    | none => exact told_still nofun
    | some answer =>
      refine told_moment _ (.asked rfl entry answered) ?_
      rintro outcome left ⟨⟩
      rfl
  | some entered =>
    obtain ⟨id, arguments⟩ := entered
    refine Told.cons ⟨.entered purpose id arguments, store, store⟩
      (enters id arguments entry) ((told id arguments _ store).imp ?_)
    -- Only a call enters a function, and its reply comes with the store that the function left.
    cases request with
    | invoke name given =>
      intro outcome left ended
      simp only [Context.entered?] at entry
      split at entry
      · rename_i prepared
        cases entry
        simp only [Context.answer, Context.invoke, prepared, Run.surface] at ended
        split at ended
        · cases ended
        · rename_i ran
          cases ended
          exact ⟨_, ran⟩
      · cases entry
    | _ => cases entry

theorem toldAt_ask (told : context.CallsTold calls) {purpose : Purpose} {request : Request}
    {resume : request.Reply → Annotated α}
    (enters : ∀ id arguments, context.entered? request = some (id, arguments) →
      Occurs context.linked earlier ⟨.entered purpose id arguments, store, store⟩)
    (goesOn : ∀ reply left, context.answer request store = some (reply, left) →
      ToldAt context calls (resume reply)
        (earlier ++ context.requestMoments calls purpose request store) left) :
    ToldAt context calls (.ask purpose request resume) earlier store := by
  -- The request is told of first, and what follows after its reply, if there is one.
  unfold ToldAt
  simp only [moments, program, Context.perform]
  refine (request_told told enters).seq (fun endless => by rw [endless]; exact ⟨rfl, rfl⟩)
    fun reply left answered => ?_
  rw [answered]
  exact goesOn reply left answered

/-- What a host asks for ends of its own is always told of. -/
theorem toldAt_own (told : context.CallsTold calls) (program : Program α)
    (earlier : List Moment) (store : Store) :
    ToldAt context calls (plain .own program) earlier store := by
  -- Every request is answered, or enters a function that is told of.
  induction program generalizing earlier store with
  | done value => exact toldAt_pure value
  | fail fault => exact toldAt_fail fault
  | ask request resume ih =>
    exact toldAt_ask told (fun id arguments entry => .entered rfl entry) fun reply left _ =>
      ih reply _ left

end

end Annotated

end GuestBoundary
