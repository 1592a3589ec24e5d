import GuestBoundary.Proofs.Life

/-! Ownership: where every buffer that a host releases is from the protocol, the deallocator is only ever
called for what the allocator has given, and a buffer that the host does not own is never given back. -/

namespace GuestBoundary

/--
Buffers that a host has from the protocol, after moments of an instance.

The argument of a scope's body is one of them: bytes that have been copied in, or the borrowed buffer at
address zero that stands for no bytes.
-/
inductive Obtained (earlier : List Moment) : Buffer → Prop
  | produced {producer : Producer} {buffer : Buffer} :
      Happened (.marked (.obtained producer buffer)) earlier → Obtained earlier buffer
  | borrowed (span : Span) : Obtained earlier ⟨span, .borrowed⟩
  | handedOver {buffer : Buffer} : Obtained earlier buffer → Obtained earlier buffer.intoGuest

/-- The buffers that a host asks to release in a life have all been obtained by then. -/
def Disciplined (life : List Moment) : Prop :=
  ∀ earlier moment later buffer, life = earlier ++ moment :: later →
    moment.event = .marked (.releasing buffer) → Obtained earlier buffer

/-- An obtained buffer that the host owns has been handed out as it is. -/
theorem Obtained.produced_of_owned {earlier : List Moment} {buffer : Buffer}
    (obtained : Obtained earlier buffer) (owned : buffer.owner = .hostOwned) :
    ∃ producer, Happened (.marked (.obtained producer buffer)) earlier := by
  -- Neither a borrowed span nor a buffer that was handed over is the host's.
  cases obtained with
  | produced happened => exact ⟨_, happened⟩
  | borrowed span => cases owned
  | handedOver _ => cases owned

/-- Whether the buffers that a host asks to release are all not its own, or have been handed out. -/
def disciplined (earlier : List Moment) : List Moment → Bool
  | [] => true
  | moment :: later =>
    (match moment.event with
      | .marked (.releasing buffer) =>
        buffer.owner != .hostOwned || earlier.any fun before =>
          match before.event with
          | .marked (.obtained _ given) => given == buffer
          | _ => false
      | _ => true) && disciplined (earlier ++ [moment]) later

/-- A buffer that is not the host's may always have been borrowed, and then handed over. -/
theorem obtained_of_not_owned (earlier : List Moment) {buffer : Buffer}
    (other : buffer.owner ≠ .hostOwned) : Obtained earlier buffer := by
  obtain ⟨span, owner⟩ := buffer
  cases owner with
  | hostOwned => exact absurd rfl other
  | guestOwned => exact .handedOver (.borrowed span)
  | borrowed => exact .borrowed span

/-- Discipline can be checked moment by moment. -/
theorem disciplined_sound {moments : List Moment} (checked : disciplined [] moments = true) :
    Disciplined moments := by
  -- The check of a moment is made against all those before it.
  suffices ∀ before, disciplined before moments = true →
      ∀ earlier moment later buffer, moments = earlier ++ moment :: later →
        moment.event = .marked (.releasing buffer) → Obtained (before ++ earlier) buffer by
    exact fun earlier moment later buffer => this [] checked earlier moment later buffer
  clear checked
  induction moments with
  | nil =>
    intro before _ earlier moment later buffer split
    simp at split
  | cons first rest ih =>
    intro before checked earlier moment later buffer split releasing
    simp only [disciplined, Bool.and_eq_true] at checked
    cases earlier with
    | nil =>
      cases split
      have handed := checked.1
      simp only [releasing, Bool.or_eq_true, bne_iff_ne, List.any_eq_true] at handed
      rw [List.append_nil]
      rcases handed with other | ⟨giver, among, gives⟩
      · exact obtained_of_not_owned _ other
      · split at gives
        · rename_i given event
          rw [beq_iff_eq] at gives
          exact .produced ⟨giver, among, by rw [event, gives]⟩
        · cases gives
    | cons head earlier =>
      cases split
      simpa using ih (before ++ [first]) checked.2 earlier moment later buffer rfl releasing

section

variable {linked : Linked} {earlier rest : List Moment} {store last : Store} {buffer : Buffer}

/-- A buffer that the host owns and that was handed out is from the allocator. -/
theorem Timeline.allocated {producer : Producer}
    (timeline : Timeline linked [] store (earlier ++ rest) last)
    (happened : Happened (.marked (.obtained producer buffer)) earlier)
    (owned : buffer.owner = .hostOwned) : Allocated buffer earlier := by
  -- It was the allocator's own answer, or had been that before.
  obtain ⟨moment, member, marked⟩ := happened
  obtain ⟨before, after, rfl⟩ := List.append_of_mem member
  rw [List.append_assoc] at timeline
  rcases (timeline.occurs.obtained marked).2 with ⟨_, length, rfl, _⟩ | ⟨_, allocated⟩
  · exact ⟨length, moment, member, marked⟩
  · exact (allocated owned).append (moment :: after)

/-- What the allocator has given is neither null nor empty, and the host's. -/
theorem Timeline.allocated_nonzero (timeline : Timeline linked [] store (earlier ++ rest) last)
    (allocated : Allocated buffer earlier) : buffer.pointer ≠ 0 ∧ buffer.length ≠ 0 := by
  -- The moment at which it was handed out is one of an allocation.
  obtain ⟨length, moment, member, marked⟩ := allocated
  obtain ⟨before, after, rfl⟩ := List.append_of_mem member
  rw [List.append_assoc] at timeline
  rcases (timeline.occurs.obtained marked).2 with ⟨_, _, _, nonzero, positive, rfl⟩ | ⟨other, _⟩
  · exact ⟨nonzero, positive⟩
  · exact absurd rfl (other length)

/-- A buffer whose deallocator is entered is the host's, and its release was announced. -/
theorem Occurs.releases {moment : Moment} {id : String} {arguments : List Value}
    (occurs : Occurs linked earlier moment)
    (entered : moment.event = .entered (.release buffer) id arguments) :
    buffer.owner = .hostOwned ∧ linked.Deallocates buffer id arguments ∧
      (Happened (.marked (.releasing buffer)) earlier ∨
        Happened (.marked (.closing buffer)) earlier) := by
  cases occurs with
  | deallocates owned deallocates announced =>
    cases entered
    exact ⟨owned, deallocates, announced⟩
  | _ => cases entered

/-- A buffer that an operation gives back by itself has been allocated before. -/
theorem Occurs.closes {moment : Moment} (occurs : Occurs linked earlier moment)
    (closing : moment.event = .marked (.closing buffer)) : Allocated buffer earlier := by
  cases occurs with
  | closing _ allocated =>
    cases closing
    exact allocated
  | _ => cases closing

/-- A release that was announced is of a buffer from the allocator. -/
theorem Timeline.announced_allocated (timeline : Timeline linked [] store (earlier ++ rest) last)
    (disciplined : Disciplined (earlier ++ rest)) (owned : buffer.owner = .hostOwned)
    (announced : Happened (.marked (.releasing buffer)) earlier ∨
      Happened (.marked (.closing buffer)) earlier) : Allocated buffer earlier := by
  rcases announced with ⟨moment, member, marked⟩ | ⟨moment, member, marked⟩
  all_goals obtain ⟨before, after, rfl⟩ := List.append_of_mem member
  all_goals rw [List.append_assoc, List.cons_append] at timeline
  · -- The host asked for it, so it had obtained the buffer as one of its own.
    rw [List.append_assoc, List.cons_append] at disciplined
    obtain ⟨producer, happened⟩ :=
      (disciplined before moment (after ++ rest) buffer rfl marked).produced_of_owned owned
    exact (timeline.allocated happened owned).append (moment :: after)
  · exact (timeline.occurs.closes marked).append (moment :: after)

end

/-- The deallocator is called with the very pointer of the buffer, and with its length if it takes two
arguments. -/
theorem Linked.Deallocates.carries {linked : Linked} {buffer : Buffer} {id : String}
    {arguments : List Value} (deallocates : linked.Deallocates buffer id arguments) :
    arguments.map Value.bits = [buffer.pointer.toUInt64] ∨
      arguments.map Value.bits = [buffer.pointer.toUInt64, buffer.length.toUInt64] := by
  -- An argument that is coerced keeps its bits.
  obtain ⟨deallocator, given, signature, _, _, _, taken, checked⟩ := deallocates
  rw [(Context.checkArguments_passed checked).2]
  unfold Program.deallocatorArguments at taken
  split at taken
  · cases taken
    exact .inl rfl
  · cases taken
    exact .inr rfl
  · cases taken

/-- A buffer that the host does not own must not be released. -/
theorem Buffer.checkRelease_rejected {buffer : Buffer} (other : buffer.owner ≠ .hostOwned) :
    buffer.checkRelease = .error (.releaseRejected buffer.owner) := by
  obtain ⟨span, owner⟩ := buffer
  cases owner with
  | hostOwned => exact absurd rfl other
  | guestOwned | borrowed => rfl

/-- A buffer that the host does not own is not given back, and nothing else happens. -/
theorem Context.perform_release_rejected {buffer : Buffer} (other : buffer.owner ≠ .hostOwned)
    (context : Context) (store : Store) :
    context.perform (Program.release buffer) store =
      some (.error (.releaseRejected buffer.owner), store) := by
  -- The owner is checked before anything is asked.
  rw [Program.release, perform_bind, Buffer.checkRelease_rejected other, perform_settle]

/-- A release that is rejected has no moment but its mark, so it runs no guest code. -/
theorem Annotated.moments_release_rejected {buffer : Buffer} (other : buffer.owner ≠ .hostOwned)
    (context : Context) (calls : String → List Value → Store → List Moment) (store : Store) :
    (Annotated.release buffer).moments context calls store =
      [(Mark.releasing buffer).at store] := by
  rw [Annotated.release, Program.release, Buffer.checkRelease_rejected other]
  rfl

/-- However often a buffer is handed over, it never becomes the host's. -/
theorem Buffer.owner_handedOver (buffer : Buffer) (handovers : Nat) :
    (Nat.repeat intoGuest handovers buffer).owner =
      if handovers = 0 then buffer.owner else .guestOwned := by
  cases handovers with
  | zero => rfl
  | succ handovers => rfl

/--
Only what the allocator has given to the host ever goes back to it.

In a life where every buffer that the host asks to release has been obtained from the protocol, each call
of the deallocator for a release, whether the host asks for it or a scope ends, is of a buffer that the
host owns and that the allocator has given before. It carries the pointer of that buffer, and its length
where the deallocator takes two arguments, and neither is ever zero. A buffer that the host does not own,
or that was handed over any number of times, is turned down for its owner in every state, and nothing else
happens.
-/
theorem Instance.ownership_discipline {engine : Engine} {settings : Settings} {linked : Linked}
    (annotations : Annotations linked) (tasks : List HostTask)
    (disciplined : Disciplined (life engine annotations settings tasks)) :
    (∀ earlier moment later buffer id arguments,
      life engine annotations settings tasks = earlier ++ moment :: later →
      moment.event = .entered (.release buffer) id arguments →
      linked.Deallocates buffer id arguments ∧ buffer.owner = .hostOwned ∧
      Allocated buffer earlier ∧ buffer.pointer ≠ 0 ∧ buffer.length ≠ 0 ∧
      (arguments.map Value.bits = [buffer.pointer.toUInt64] ∨
        arguments.map Value.bits = [buffer.pointer.toUInt64, buffer.length.toUInt64])) ∧
    ∀ (buffer : Buffer) (handovers : Nat), buffer.owner ≠ .hostOwned ∨ handovers ≠ 0 →
      let given := Nat.repeat Buffer.intoGuest handovers buffer
      given.owner ≠ .hostOwned ∧
      ∀ (context : Context) (calls : String → List Value → Store → List Moment) (store : Store),
        context.perform (Program.release given) store =
          some (.error (.releaseRejected given.owner), store) ∧
        (Annotated.release given).moments context calls store =
          [(Mark.releasing given).at store] := by
  refine ⟨fun earlier moment later buffer id arguments lived entered => ?_,
    fun buffer handovers other => ?_⟩
  · obtain ⟨last, timeline, _⟩ := life_told engine annotations settings tasks
    rw [lived] at timeline disciplined
    obtain ⟨owned, deallocates, announced⟩ := timeline.occurs.releases entered
    have allocated := timeline.announced_allocated disciplined owned announced
    obtain ⟨nonzero, positive⟩ := timeline.allocated_nonzero allocated
    exact ⟨deallocates, owned, allocated, nonzero, positive, deallocates.carries⟩
  · have never : (Nat.repeat Buffer.intoGuest handovers buffer).owner ≠ .hostOwned := by
      rw [Buffer.owner_handedOver]
      split
      · rename_i none
        exact other.resolve_right (not_not_intro none)
      · exact Ownership.noConfusion
    exact ⟨never, fun context calls store =>
      ⟨Context.perform_release_rejected never context store,
        Annotated.moments_release_rejected never context calls store⟩⟩

/-- The host function that opens a scope and re-enters the guest in it, annotated. -/
def Sample.nestText : List Value → Annotated (List Value)
  | [.i32 count] =>
    if count = 0 then .fail (.engine "stop")
    else Annotated.withGuestBytes [1, 2, 3] fun _ =>
      .plain .own (Program.invoke "relay" [.i32 (count - 1)])
  | _ => return []

theorem Sample.program_nestText (arguments : List Value) :
    (nestText arguments).program = nest arguments := by
  -- Both look at the count in the same way.
  unfold nestText
  split
  · rename_i count
    by_cases zero : count = 0
    · simp [nest, zero]
    · simp [nest, zero, Annotated.program_withGuestBytes]
  · rename_i other
    unfold nest
    split
    · exact absurd rfl (other _)
    · rfl

theorem Sample.honest_nestText (arguments : List Value) : (nestText arguments).Honest := by
  unfold nestText
  split
  · split
    · exact .plain (.fail _)
    · exact .scope _ fun _ => .plain _
  · exact .plain (.done _)

/-- The annotations of the guest's only host function. -/
def Sample.annotations : Annotations (linked nest) where
  text _ := nestText
  program_text := by
    intro id host bound arguments
    obtain ⟨-, rfl⟩ : id = "visit" ∧ host = visit nest := by
      simpa [linked] using Linked.mem_of_lookup bound
    exact program_nestText arguments
  honest _ := honest_nestText

/-- Three bytes that the host copies in and releases go back to the allocator, and so do those of a scope
that a host function has opened and that a fault ends. Both are calls of the deallocator with the pointers
that the allocator gave. -/
theorem Instance.ownership_discipline_sample :
    let tasks : List HostTask :=
      [⟨Annotated.produce (.copyIn [1, 2, 3]) >>= Annotated.release, .bind (.produce _) .release⟩,
        ⟨.plain .own (Program.invoke "relay" [.i32 1]), .plain _⟩]
    let life := life Sample.engine Sample.annotations .default tasks
    Disciplined life ∧
    ∀ pointer ∈ [(16 : UInt32), 19], ∃ earlier moment later,
      life = earlier ++ moment :: later ∧
      moment.event = .entered (.release ⟨⟨pointer, 3⟩, .hostOwned⟩) "wipe" [.i32 pointer] ∧
      Allocated ⟨⟨pointer, 3⟩, .hostOwned⟩ earlier ∧ pointer ≠ 0 := by
  intro tasks life
  -- The moments are evaluated, and their discipline is checked one by one.
  have disciplined : Disciplined life := disciplined_sound rfl
  have entered : ∀ (n : Nat) (pointer : UInt32) moment, life[n]? = some moment →
      moment.event = .entered (.release ⟨⟨pointer, 3⟩, .hostOwned⟩) "wipe" [.i32 pointer] →
      ∃ earlier moment later, life = earlier ++ moment :: later ∧
        moment.event = .entered (.release ⟨⟨pointer, 3⟩, .hostOwned⟩) "wipe" [.i32 pointer] ∧
        Allocated ⟨⟨pointer, 3⟩, .hostOwned⟩ earlier ∧ pointer ≠ 0 := by
    intro n pointer moment found released
    obtain ⟨earlier, later, lived⟩ := List.append_of_mem (List.mem_of_getElem? found)
    obtain ⟨_, _, allocated, nonzero, _⟩ :=
      (ownership_discipline Sample.annotations tasks disciplined).1 earlier moment later _ _ _ lived
        released
    exact ⟨earlier, moment, later, lived, released, allocated, nonzero⟩
  refine ⟨disciplined, fun pointer among => ?_⟩
  obtain rfl | rfl : pointer = 16 ∨ pointer = 19 := by simpa using among
  · exact entered 20 16 _ rfl rfl
  · exact entered 53 19 _ rfl rfl

end GuestBoundary
