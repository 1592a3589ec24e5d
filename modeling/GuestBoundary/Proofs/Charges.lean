import GuestBoundary.Proofs.MemorySize

/-! What is charged: the meter of an instance shows the fuel that it started with, less one unit for each
time that guest code was charged. -/

namespace GuestBoundary

/-- Whether guest code is charged. -/
def Happening.isCharge : Happening → Bool
  | .charged => true
  | _ => false

/-- How often guest code is charged among moments. -/
def charges (moments : List Moment) : Nat := moments.countP (·.event.isCharge)

@[simp] theorem charges_nil : charges [] = 0 := rfl

@[simp] theorem charges_cons (moment : Moment) (moments : List Moment) :
    charges (moment :: moments) = (if moment.event.isCharge then 1 else 0) + charges moments := by
  rw [charges, List.countP_cons, charges, Nat.add_comm]

@[simp] theorem charges_append (first second : List Moment) :
    charges (first ++ second) = charges first + charges second :=
  List.countP_append

/-- The relation between stores whose meters show the same. -/
def SameFuel (store left : Store) : Prop := left.fuel = store.fuel

theorem sameFuel_composes : Run.Composes SameFuel where
  refl _ := rfl
  trans first second := Eq.trans second first

/-- No step of a host touches the meter. -/
theorem HostStep.sameFuel {store left : Store} (step : HostStep store left) : SameFuel store left := by
  cases step <;> rfl

/-- A charge takes one unit, unless none is left, and nothing else that happens touches the meter. -/
theorem Occurs.fuel_eq {linked : Linked} {earlier : List Moment} {moment : Moment}
    (occurs : Occurs linked earlier moment) :
    moment.after.fuel = moment.before.fuel.map (· - charges [moment]) := by
  -- What is not charged leaves the meter as it is, which is to take nothing from it.
  have still {store left : Store} (same : SameFuel store left) :
      left.fuel = store.fuel.map (· - 0) := by
    simpa [SameFuel] using same
  cases occurs with
  | @charged store left outcome charged =>
    rw [Run.charge_apply] at charged
    split at charged
    · rename_i metered
      cases charged
      rw [metered]
      rfl
    · rename_i metered
      cases charged
      rw [metered]
      rfl
    · rename_i fuel metered
      cases charged
      simp [metered, Happening.isCharge]
  | executed _ ran =>
    exact still (Wasm.simple_keeps_uncharged sameFuel_composes _ (fun _ same => same) _ _ _ _ _ ran)
  | placed placed =>
    have step {store left : Store} (_ : Wasm.GuestStep 0 store left) (same : left.fuel = store.fuel) :
        SameFuel store left := same
    exact still (Wasm.storeBytes_keeps_uncharged sameFuel_composes step _ _ _ _ _ placed)
  | asked _ turned answered =>
    exact still (Context.answer_keeps_uncalled sameFuel_composes (·.sameFuel) (fun _ _ => rfl) turned
      answered)
  | _ => exact still rfl

/-- Along moments, each charge takes one unit. -/
theorem Timeline.fuel_eq {linked : Linked} {earlier moments : List Moment} {store last : Store}
    (timeline : Timeline linked earlier store moments last) :
    last.fuel = store.fuel.map (· - charges moments) := by
  induction timeline with
  | none => simp
  | @more _ _ moment _ occurs _ ih =>
    rw [ih, occurs.fuel_eq, Option.map_map]
    congr 1
    funext fuel
    simp only [Function.comp, charges_cons, charges_nil]
    omega

/-- A timeline can be parted between any two of its moments. -/
theorem Timeline.part {linked : Linked} {earlier first second : List Moment} {store last : Store}
    (timeline : Timeline linked earlier store (first ++ second) last) :
    ∃ middle, Timeline linked earlier store first middle ∧
      Timeline linked (earlier ++ first) middle second last := by
  -- By induction on the moments of the first part.
  induction first generalizing earlier store with
  | nil => exact ⟨store, .none, by simpa using timeline⟩
  | cons moment rest ih =>
    cases timeline with
    | more occurs timeline =>
      obtain ⟨middle, start, goesOn⟩ := ih timeline
      exact ⟨middle, .more occurs start, by simpa using goesOn⟩

/-- Before each moment, the meter shows what the charges so far have left. -/
theorem Timeline.before_fuel_eq {linked : Linked} {earlier first second : List Moment}
    {moment : Moment} {store last : Store}
    (timeline : Timeline linked earlier store (first ++ moment :: second) last) :
    moment.before.fuel = store.fuel.map (· - charges first) := by
  obtain ⟨middle, start, goesOn⟩ := timeline.part
  cases goesOn with
  | more => exact start.fuel_eq

/-- None of the functions that the host enters among moments is the guest's own. -/
def EntersHostsAlone (linked : Linked) (moments : List Moment) : Prop :=
  ∀ moment ∈ moments, ∀ purpose id arguments, moment.event = .entered purpose id arguments →
    linked.hosts.lookup id ≠ none

/-- Where nothing is entered, nothing of the guest is. -/
theorem EntersHostsAlone.nil {linked : Linked} : EntersHostsAlone linked [] :=
  fun _ member => absurd member List.not_mem_nil

theorem EntersHostsAlone.append_iff {linked : Linked} {first second : List Moment} :
    EntersHostsAlone linked (first ++ second) ↔
      EntersHostsAlone linked first ∧ EntersHostsAlone linked second :=
  List.forall_mem_append

/-- Calls are uncharged if they are of host functions and lead to calls of host functions alone. -/
def CallsUncharged (linked : Linked) (calls : String → List Value → Store → List Moment) : Prop :=
  ∀ id arguments store, linked.hosts.lookup id ≠ none →
    EntersHostsAlone linked (calls id arguments store) → charges (calls id arguments store) = 0

section

variable {linked : Linked} {context : Context} {calls : String → List Value → Store → List Moment}
  {α : Type}

/-- A request charges nothing if it enters at most functions of the host. -/
theorem Context.requestMoments_uncharged (uncharged : CallsUncharged linked calls) (purpose : Purpose)
    (request : Request) (store : Store)
    (alone : EntersHostsAlone linked (context.requestMoments calls purpose request store)) :
    charges (context.requestMoments calls purpose request store) = 0 := by
  unfold requestMoments at alone ⊢
  split
  · rename_i id arguments entered
    rw [entered] at alone
    obtain ⟨own, inside⟩ := List.forall_mem_cons.mp alone
    have nothing := uncharged id arguments store (own purpose id arguments rfl) inside
    simp [nothing, Happening.isCharge]
  · split
    · rfl
    · rfl

/-- A program charges nothing if the functions that it enters are all of the host. -/
theorem Annotated.moments_uncharged (uncharged : CallsUncharged linked calls)
    (annotated : Annotated α) (store : Store)
    (alone : EntersHostsAlone linked (annotated.moments context calls store)) :
    charges (annotated.moments context calls store) = 0 := by
  -- Request by request, along the replies that lead from one to the next.
  induction annotated generalizing store with
  | done value => rfl
  | fail fault => rfl
  | marking mark rest ih =>
    obtain ⟨_, alone⟩ := List.forall_mem_cons.mp alone
    have nothing := ih store alone
    simp only [moments, charges_cons, nothing]
    rfl
  | ask purpose request resume ih =>
    unfold moments at alone ⊢
    obtain ⟨first, rest⟩ := EntersHostsAlone.append_iff.mp alone
    rw [charges_append, context.requestMoments_uncharged uncharged purpose request store first]
    split
    · rfl
    · rename_i reply left answered
      rw [answered] at rest
      rw [ih reply left rest]

/-- Calls of host functions that only lead to such calls charge nothing, at any depth. -/
theorem Linked.moments_uncharged (annotations : Annotations linked) (patience depth : Nat)
    (caller : Caller) :
    CallsUncharged linked (linked.moments annotations patience depth caller) := by
  induction depth generalizing caller with
  | zero => exact fun _ _ _ _ _ => rfl
  | succ depth ih =>
    intro id arguments store hosted alone
    unfold moments at alone ⊢
    cases bound : linked.hosts.lookup id with
    | none => exact absurd bound hosted
    | some host =>
      simp only [bound] at alone ⊢
      exact Annotated.moments_uncharged (ih .host) _ store alone

/-- A program that calls nothing enters nothing. -/
theorem Annotated.quiet_entersHostsAlone {program : Program α} (quiet : program.Quiet)
    (purpose : Purpose) (store : Store) :
    EntersHostsAlone linked ((plain purpose program).moments context calls store) := by
  induction program generalizing store with
  | done value => exact .nil
  | fail fault => exact .nil
  | ask request resume ih =>
    rw [plain, moments, EntersHostsAlone.append_iff]
    constructor
    · -- The request is answered without a call, so its one moment is an answer.
      have turned : context.entered? request = none := by
        cases request with
        | invoke name given => exact absurd rfl (quiet.1 name given)
        | _ => rfl
      simp only [Context.requestMoments, turned]
      split
      · exact .nil
      · intro moment member purpose id arguments same
        cases List.mem_singleton.mp member
        cases same
    · split
      · exact .nil
      · exact ih _ (quiet.2 _) _

end

end GuestBoundary
