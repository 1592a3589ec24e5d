import GuestBoundary.Proofs.Operations

/-! Entries: the functions of an instance that a host program itself enters, in order. What those
functions call in turn is theirs, so a program without entries has no code of the guest run at all. -/

namespace GuestBoundary

variable {α β : Type}

namespace Context

/-- The functions that a program enters in its run from a store, each with its arguments. -/
def entries (context : Context) : Program α → Store → List (String × List Value)
  | .done _, _ => []
  | .fail _, _ => []
  | .ask request resume, store =>
    (context.entered? request).toList ++
      match context.answer request store with
      | none => []
      | some (reply, left) => context.entries (resume reply) left

variable {context : Context}

@[simp] theorem entries_pure (value : α) (store : Store) :
    context.entries (pure value) store = [] := rfl

/-- A sequence enters what its first part enters, and then what the second does if there is a value to
go on with. -/
theorem entries_bind (program : Program α) (next : α → Program β) (store : Store) :
    context.entries (program >>= next) store =
      context.entries program store ++
        match context.perform program store with
        | some (.ok value, left) => context.entries (next value) left
        | _ => [] := by
  -- By induction on the first part, whose replies lead to the store that the second starts from.
  induction program generalizing store with
  | done value => rfl
  | fail fault => rfl
  | ask request resume ih =>
    change context.entries (.ask request fun reply => (resume reply).bind next) store = _
    simp only [entries, perform]
    cases context.answer request store with
    | none => simp
    | some answered =>
      rw [List.append_assoc]
      exact congrArg _ (ih answered.1 answered.2)

/-- Attempting changes how a program ends, not what it enters. -/
theorem entries_attempt (program : Program α) (store : Store) :
    context.entries program.attempt store = context.entries program store := by
  induction program generalizing store with
  | done value => rfl
  | fail fault => rfl
  | ask request resume ih =>
    simp only [Program.attempt, entries]
    cases context.answer request store with
    | none => rfl
    | some answered => exact congrArg _ (ih answered.1 answered.2)

/-- What calls nothing enters nothing. -/
theorem entries_quiet {program : Program α} (quiet : program.Quiet) (store : Store) :
    context.entries program store = [] := by
  -- Only a call enters a function, and neither a request nor what follows it is one.
  induction program generalizing store with
  | done value => rfl
  | fail fault => rfl
  | ask request resume ih =>
    have still : context.entered? request = none := by
      cases request with
      | invoke name arguments => exact absurd rfl (quiet.1 name arguments)
      | _ => rfl
    simp only [entries, still, Option.toList_none, List.nil_append]
    split
    · rfl
    · exact ih _ (quiet.2 _) _

/-- After a first part that calls nothing and gives a value, a sequence enters what the second part
does. -/
theorem entries_bind_quiet {program : Program α} {next : α → Program β} {store left : Store} {value : α}
    (quiet : program.Quiet) (ran : context.perform program store = some (.ok value, left)) :
    context.entries (program >>= next) store = context.entries (next value) left := by
  rw [entries_bind, entries_quiet quiet, ran, List.nil_append]

/-- Where the second part calls nothing, a sequence enters what its first part does. -/
theorem entries_bind_last {program : Program α} {next : α → Program β} {store : Store}
    (quiet : ∀ value, (next value).Quiet) :
    context.entries (program >>= next) store = context.entries program store := by
  rw [entries_bind]
  split
  · rw [entries_quiet (quiet _), List.append_nil]
  · rw [List.append_nil]

/-- A run that enters no function is the same whatever the functions of the instance do. -/
theorem perform_unentered {program : Program α} {store : Store}
    (unentered : context.entries program store = [])
    (call : String → List Value → Run (List Value)) :
    ({ context with call } : Context).perform program store = context.perform program store := by
  -- By induction on the program, each of whose requests is answered without a call.
  induction program generalizing store with
  | done value => rfl
  | fail fault => rfl
  | ask request resume ih =>
    simp only [entries, List.append_eq_nil_iff, Option.toList_eq_nil_iff] at unentered
    obtain ⟨still, rest⟩ := unentered
    have same : ({ context with call } : Context).answer request store =
        context.answer request store := by
      cases request with
      | invoke name arguments =>
        -- Without an entry the checks have failed, and they do not look at what can be called.
        cases prepared : context.prepare name arguments with
        | ok entry => simp [entered?, prepared] at still
        | error fault =>
          have again : ({ context with call } : Context).prepare name arguments = .error fault :=
            prepared
          simp only [answer, invoke, prepared, again]
      | _ => rfl
    simp only [perform, same]
    cases answered : context.answer request store with
    | none => rfl
    | some reply =>
      rw [answered] at rest
      exact ih reply.1 rest

/-- A call by name enters the function that its checks lead to, and only if all of them pass. -/
theorem entries_invoke (name : String) (arguments : List Value) (store : Store) :
    context.entries (Program.invoke name arguments) store =
      (context.prepare name arguments).toOption.toList := by
  -- The reply ends the program, so nothing is asked after the call itself.
  have called : (context.entered? (.invoke name arguments)).toList =
      (context.prepare name arguments).toOption.toList := by
    cases prepared : context.prepare name arguments <;> simp [entered?, prepared, Except.toOption]
  rw [Program.invoke, entries, called]
  split
  · exact List.append_nil _
  · rw [entries_quiet (Program.asks_settle _), List.append_nil]

end Context

namespace Program

/-- Looking at the names that the instance relies on, and at its exports, calls nothing. -/
theorem quiet_conventions : conventions.Quiet := asks_conventions fun _ _ => Request.noConfusion

theorem quiet_hasExport (name : String) : (hasExport name).Quiet :=
  asks_hasExport fun _ _ => Request.noConfusion

theorem quiet_signature (name : String) : (signature name).Quiet :=
  asks_signature fun _ _ => Request.noConfusion

theorem quiet_resolve : View.resolve.Quiet := by
  refine asks_bind quiet_conventions fun names => ⟨nofun, fun size => ?_⟩
  cases size <;> trivial

theorem quiet_size (view : View) : view.size.Quiet := ⟨nofun, fun _ => trivial⟩

theorem quiet_write (view : View) (offset : UInt32) (bytes : List UInt8) :
    (view.write offset bytes).Quiet := ⟨nofun, asks_settle⟩

/-- Looking at an allocator's answer calls nothing. -/
theorem quiet_allocated (length : UInt32) (values : List Value) : (allocated length values).Quiet := by
  unfold allocated
  split
  · split
    · trivial
    · refine asks_bind quiet_resolve fun view => asks_bind (quiet_size view) fun size => ?_
      split <;> trivial
  · trivial

end Program

namespace Context

variable {context : Context}

/-- An allocation enters its allocator, if the call of it passes all checks, and nothing else. -/
theorem entries_allocate (length : UInt32) (store : Store) :
    context.entries (Program.allocate length) store =
      if length = 0 then []
      else (context.prepare context.linked.conventions.allocExport
        [.i32 length]).toOption.toList := by
  unfold Program.allocate
  split
  · rfl
  · rw [entries_bind_quiet Program.quiet_conventions (perform_conventions context store)]
    -- What comes after the call only looks at its outcome.
    refine (entries_bind_last fun outcome => ?_).trans ((entries_attempt _ store).trans
      (entries_invoke _ _ store))
    cases outcome with
    | ok values => exact Program.quiet_allocated length values
    | error fault => trivial

/-- Copying bytes in enters what their allocation enters, once memory has been found. The deallocator is
not entered, since the bytes always fit where the allocator has put them. -/
theorem entries_copyIn (sees : context.SeesMemory) {bytes : List UInt8}
    (short : bytes.length < UInt32.size) (store : Store) :
    context.entries (Program.copyIn bytes) store =
      context.entries (Program.allocate (UInt32.ofNat bytes.length)) store := by
  rw [Program.copyIn, if_pos short,
    entries_bind_quiet Program.quiet_resolve (perform_resolve sees store), entries_bind]
  cases given : context.perform (Program.allocate (UInt32.ofNat bytes.length)) store with
  | none => exact List.append_nil _
  | some ended =>
    obtain ⟨outcome, left⟩ := ended
    cases outcome with
    | error fault => exact List.append_nil _
    | ok buffer =>
      -- The write succeeds, so nothing comes after it.
      obtain ⟨_, _, inside, _⟩ := allocate_bytes sees short given
      simp only [entries_bind, entries_attempt, entries_quiet (Program.quiet_write _ _ _),
        perform_attempt, perform_write sees, Region.write_inside short inside, entries_pure,
        List.append_nil]

end Context

end GuestBoundary
