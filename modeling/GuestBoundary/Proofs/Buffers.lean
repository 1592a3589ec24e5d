import GuestBoundary.Proofs.MemorySize

/-! Buffers that the protocol hands out: they lie inside memory when they are handed out, and from then on
for as long as their instance lives. -/

namespace GuestBoundary

theorem MemoryGrows.inside {store left : Store} (grows : MemoryGrows store left) {buffer : Buffer}
    (inside : buffer.Inside store) : buffer.Inside left :=
  Nat.le_trans inside grows

/-- The bytes of a buffer can all be read, and as many can be written from its pointer on. -/
def Buffer.Usable (buffer : Buffer) (context : Context) (store : Store) : Prop :=
  (∃ bytes, context.perform (Program.readBytes buffer.span) store = some (.ok bytes, store) ∧
    bytes.length = buffer.length.toNat) ∧
  ∀ bytes : List UInt8, bytes.length ≤ buffer.length.toNat →
    ∃ left, context.perform (View.resolve >>= (·.write buffer.pointer bytes)) store =
      some (.ok (), left) ∧ left.memory.bytesAt buffer.pointer.toNat bytes.length = bytes

/-- A buffer inside memory can be used wherever memory is seen. -/
theorem Buffer.Inside.usable {buffer : Buffer} {context : Context} {store : Store}
    (inside : buffer.Inside store) (sees : context.SeesMemory) : buffer.Usable context store := by
  -- The view is found, and the span passes the check against the size of memory.
  refine ⟨⟨store.memory.bytesAt buffer.pointer.toNat buffer.length.toNat, ?_,
    Region.length_bytesAt ..⟩, fun bytes fits => ?_⟩
  · have read : store.memory.read buffer.span.pointer buffer.span.length = .ok _ :=
      Region.read_inside inside
    simp only [Program.readBytes, Context.perform_bind, Context.perform_resolve sees,
      Context.perform_read sees, read]
    rfl
  · -- No more bytes than the buffer has are fewer than a word can count.
    have short : bytes.length < UInt32.size := Nat.lt_of_le_of_lt fits buffer.length.toNat_lt
    have within : buffer.pointer.toNat + bytes.length ≤ store.memory.size :=
      Nat.le_trans (Nat.add_le_add_left fits _) inside
    refine ⟨{ store with memory := store.memory.store buffer.pointer.toNat bytes }, ?_,
      Region.bytesAt_store _ _⟩
    simp only [Context.perform_bind, Context.perform_resolve sees, Context.perform_write sees,
      Region.write_inside short within]

/-- What a producer hands out in any context of an instance lies inside memory as it leaves it. -/
theorem Linked.produce_inside {linked : Linked} {patience depth : Nat} {visible : Bool}
    {self : String} {producer : Producer} {store left : Store} {buffer : Buffer}
    (given : (linked.context patience depth visible self).perform producer.program store =
      some (.ok buffer, left)) : buffer.Inside left := by
  -- The mark at the end of the producer's moments stands where the buffer lies inside.
  have calls : (linked.context patience depth visible self).CallsTold
      (linked.moments (.plain linked) patience depth .host) :=
    Linked.call_told (.plain linked) patience depth .host
  rw [← Annotated.program_produce] at given
  obtain ⟨inner, marked⟩ := Annotated.marks_produce producer store buffer left given
  obtain ⟨last, timeline, _⟩ := Annotated.toldAt_produce calls producer [] store
  rw [marked] at timeline
  exact (timeline.occurs.obtained rfl).1

/-- Running a program on an instance does not shrink its memory, however the program ends. -/
theorem Instance.perform_grows {α : Type} {engine : Engine} {inst left : Instance}
    {program : Program α} {outcome : Except Fault α}
    (performed : inst.perform engine program = some (outcome, left)) :
    MemoryGrows inst.store left.store := by
  -- The calls of the instance's own context never shrink memory.
  unfold perform at performed
  split at performed
  · cases performed
  · rename_i ran
    cases performed
    exact (Linked.context_neverShrinks inst.linked _ _ _ _).keeps program _ _ _ ran

/-- A guest that is instantiated with memory around a buffer, or is closed. -/
def Guest.Surrounds (guest : Guest) (linked : Linked) (buffer : Buffer) : Prop :=
  match guest.phase with
  | .instantiated inst => inst.linked = linked ∧ buffer.Inside inst.store
  | .closed => True
  | _ => False

/-- No operation takes a buffer out of memory. -/
theorem Operation.apply_surrounds {α : Type} {operation : Operation α} {outcome : Except Fault α}
    {guest after : Guest} {linked : Linked} {buffer : Buffer}
    (applied : operation.apply guest = some (outcome, after))
    (surrounds : guest.Surrounds linked buffer) : after.Surrounds linked buffer := by
  -- A guest that surrounds a buffer is past its loading, and programs do not shrink memory.
  cases apply_leads applied with
  | refused | inspects => exact surrounds
  | loads | unreadable | instantiates | fails => exact surrounds.elim
  | closes => trivial
  | runs performed =>
    exact ⟨(Instance.perform_linked performed).trans surrounds.1,
      (Instance.perform_grows performed).inside surrounds.2⟩

/--
Every buffer that the protocol hands out can be used for as long as its instance lives.

A buffer that a producer hands out to the host can be read and written through whatever is done with the
guest afterwards, as long as that leaves the guest instantiated. The same holds where a producer runs in a
host function: each success of a producer, in any context of the instance, is a mark among the moments, and
from each such mark in a life on, the buffer can be used at every later point and in every context that
sees the instance.
-/
theorem Instance.buffers_stay_usable {sandbox : Sandbox} {code : Wasm.Module} {linked : Linked}
    (links : Linked.link sandbox.settings sandbox.registry code = .ok linked) :
    (∀ store producer buffer left history guest reached,
      Instance.perform sandbox.engine ⟨linked, store⟩ (Producer.program producer) =
        some (.ok buffer, left) →
      Performs ⟨sandbox, .instantiated left⟩ history guest → guest.phase = .instantiated reached →
      buffer.Usable (context sandbox.engine reached.linked) reached.store) ∧
    ∀ annotations : Annotations linked,
      (∀ depth visible self producer store buffer left,
        let context := linked.context sandbox.engine.patience depth visible self
        context.perform (Producer.program producer) store = some (.ok buffer, left) →
        ∃ inner, (Annotated.produce producer).moments context
            (linked.moments annotations sandbox.engine.patience depth .host) store =
          inner ++ [(Mark.obtained producer buffer).at left]) ∧
      ∀ tasks earlier moment later producer buffer,
        life sandbox.engine annotations sandbox.settings tasks = earlier ++ moment :: later →
        moment.event = .marked (.obtained producer buffer) →
        ∀ point ∈ moment :: later, ∀ depth self,
          buffer.Usable (linked.context sandbox.engine.patience depth true self) point.after := by
  refine ⟨fun store producer buffer left history guest reached given performs holds => ?_,
    fun annotations => ⟨fun depth visible self producer store buffer left given => ?_,
      fun tasks earlier moment later producer buffer lived marked point among depth self => ?_⟩⟩
  · -- The buffer is inside memory to begin with, and every operation leaves it there.
    have inside : buffer.Inside left.store := by
      unfold Instance.perform at given
      split at given
      · cases given
      · rename_i performed
        cases given
        exact Linked.produce_inside performed
    have surrounds : guest.Surrounds linked buffer :=
      performs.keeps (·.Surrounds linked buffer) Operation.apply_surrounds
        ⟨Instance.perform_linked given, inside⟩
    rw [Guest.Surrounds, holds] at surrounds
    rw [surrounds.1]
    exact surrounds.2.usable (Linked.context_seesMemory links _ _ _)
  · rw [← Annotated.program_produce] at given
    exact Annotated.marks_produce producer store buffer left given
  · -- Where the mark stands the buffer is inside, and no later moment shrinks memory.
    obtain ⟨last, timeline, _⟩ := life_told sandbox.engine annotations sandbox.settings tasks
    rw [lived] at timeline
    have inside := (timeline.occurs.obtained marked).1
    have grows := timeline.pairwise memoryGrows_composes fun occurs => occurs.sizeWithin.1
    rw [List.map_append, List.map_cons, ← List.cons_append] at grows
    obtain ⟨after, _⟩ := List.pairwise_cons.mp (List.pairwise_append.mp grows).2.1
    refine Buffer.Inside.usable ?_ (Linked.context_seesMemory links _ _ _)
    rcases List.mem_cons.mp among with rfl | among
    · exact inside
    · exact MemoryGrows.inside (after _ (List.mem_map_of_mem among)) inside

/-- Three bytes that are copied in can be read back after a call has failed, and so they can at every
point of a life in which they are delivered. -/
theorem Instance.buffers_stay_usable_sample :
    let sandbox : Sandbox := ⟨Sample.engine, .default, Sample.registry Sample.nest⟩
    let linked := Sample.linked Sample.nest
    let history : List Performed :=
      [⟨.run (Program.invoke "relay" [.i32 1]), .error (.engine "stop")⟩]
    let tasks : List HostTask :=
      [⟨Annotated.produce (.writeOutSlots [7, 8] 0 4), .produce _⟩,
        ⟨.plain .own (Program.invoke "relay" [.i32 1]), .plain _⟩]
    (∃ left guest reached,
      (Sample.inst Sample.nest).perform sandbox.engine (Program.copyIn [1, 2, 3]) =
        some (.ok ⟨⟨16, 3⟩, .hostOwned⟩, left) ∧
      Performs ⟨sandbox, .instantiated left⟩ history guest ∧
      guest.phase = .instantiated reached ∧
      Buffer.Usable ⟨⟨16, 3⟩, .hostOwned⟩ (context sandbox.engine reached.linked) reached.store) ∧
    ∃ moment earlier later,
      life sandbox.engine (.plain linked) sandbox.settings tasks = earlier ++ moment :: later ∧
      moment.event = .marked (.obtained (.writeOutSlots [7, 8] 0 4) ⟨⟨16, 2⟩, .guestOwned⟩) ∧
      ∀ point ∈ moment :: later,
        Buffer.Usable ⟨⟨16, 2⟩, .guestOwned⟩ (linked.context 16 16 true "host") point.after := by
  intro sandbox linked history tasks
  have links : Linked.link sandbox.settings sandbox.registry Sample.guest = .ok linked :=
    Sample.links Sample.nest
  obtain ⟨handed, stay⟩ := buffers_stay_usable links
  constructor
  · -- The history starts from the instance that the copy has left.
    refine ⟨_, _, _, rfl, .more rfl .none, rfl, ?_⟩
    exact handed (Sample.inst Sample.nest).store (.copyIn [1, 2, 3]) _ _ history _ _ rfl
      (.more rfl .none) rfl
  · -- The delivery is marked after the two words of its span are written.
    have marked : (life sandbox.engine (.plain linked) sandbox.settings tasks)[21]? = some _ := rfl
    obtain ⟨earlier, later, lived⟩ := List.append_of_mem (List.mem_of_getElem? marked)
    exact ⟨_, earlier, later, lived, rfl, fun point among =>
      (stay (.plain linked)).2 tasks earlier _ later _ _ lived rfl point among 16 "host"⟩

end GuestBoundary
