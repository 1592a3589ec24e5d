import GuestBoundary.Capability
import GuestBoundary.Proofs.Linking
import GuestBoundary.Proofs.Text.ByteOrder
import Mathlib.Data.List.Dedup
import Mathlib.Data.List.Perm.Basic

/-! Registration: a registry is an ordered map in which the first function under a pair of names stays,
whatever is registered after it, one by one or in groups. -/

namespace GuestBoundary

/-- What is registered in one go: a function, or a group of the standard capabilities. -/
inductive Registration where
  | one (function : HostFunction)
  | logging (space : String)
  | talk (respond : String → String) (space : String)
  | getString (text space : String)
  | withStatus (respond : String → String) (space : String)
  | standard (space : String)

/-- The functions to register, in order. -/
def Registration.functions : Registration → List HostFunction
  | .one function => [function]
  | .logging space => Capability.logging space
  | .talk respond space => [Capability.talkPlain respond space]
  | .getString text space => [Capability.getString text space]
  | .withStatus respond space => Capability.withStatus respond space
  | .standard space => Capability.standard space

namespace HostFunction

/-- The names under which a function is registered. -/
def names (function : HostFunction) : String × String := (function.space, function.name)

/-- A function comes before another in listings: by the bytes of the namespaces, and in one namespace by
those of the names. -/
def Precedes (first second : HostFunction) : Prop :=
  Utf8.encode first.space < Utf8.encode second.space ∨
    first.space = second.space ∧ Utf8.encode first.name < Utf8.encode second.name

/-- Of a group, the functions that are registered or refused after earlier ones: all up to the first whose
names are taken, and that one. -/
def made (earlier : List HostFunction) : List HostFunction → List HostFunction
  | [] => []
  | function :: rest =>
    if function.names ∈ earlier.map names then [function]
    else function :: made (earlier ++ [function]) rest

/-- All functions that are registered or refused by registrations one after another, from earlier ones on. -/
def history (earlier : List HostFunction) : List Registration → List HostFunction
  | [] => earlier
  | registration :: rest => history (earlier ++ made earlier registration.functions) rest

end HostFunction

open HostFunction

namespace Registry

/-- The registry after registrations one after another, whether they succeed or not. -/
def after (registry : Registry) : List Registration → Registry
  | [] => registry
  | registration :: rest => (registry.registerAll registration.functions).1.after rest

/-- A registry holds, of the functions of a list, the first under each pair of names. -/
structure Records (registry : Registry) (calls : List HostFunction) : Prop where
  first :
    ∀ space name, registry.get? space name = calls.find? fun function => function.names = (space, name)

/-- How the registration of a group ends after earlier functions, and the functions that it adds. -/
inductive Adds (earlier functions : List HostFunction) : List HostFunction → Except Fault Unit → Prop
  /-- All names are new. -/
  | all (apart : (functions.map names).Nodup)
      (unused : ∀ function ∈ functions, function.names ∉ earlier.map names) :
      Adds earlier functions functions (.ok ())
  /-- The names of a function are taken by an earlier one or by one before it in the group, and those
  before it are new. -/
  | upTo {before rest : List HostFunction} {duplicate : HostFunction}
      (split : functions = before ++ duplicate :: rest) (apart : (before.map names).Nodup)
      (unused : ∀ function ∈ before, function.names ∉ earlier.map names)
      (taken : duplicate.names ∈ (earlier ++ before).map names) :
      Adds earlier functions before
        (.error (.duplicateHostFunction duplicate.space duplicate.name))

variable {registry left : Registry} {calls functions : List HostFunction} {function : HostFunction}
  {fault : Fault}

theorem records_empty : empty.Records [] := ⟨fun _ _ => rfl⟩

/-- Names are free in a registry exactly if no function before has had them. -/
theorem Records.get?_eq_none_iff (records : registry.Records calls) :
    registry.get? function.space function.name = none ↔ function.names ∉ calls.map names := by
  rw [records.first, List.find?_eq_none, List.mem_map]
  simp [names]

/-- A function is refused exactly if one before it has had its names, and that is what the fault says. -/
theorem Records.register_error_iff (records : registry.Records calls) :
    registry.register function = .error fault ↔
      fault = .duplicateHostFunction function.space function.name ∧
        function.names ∈ calls.map names := by
  have free : registry.get? function.space function.name = none ↔ function.names ∉ calls.map names :=
    records.get?_eq_none_iff
  cases found : registry.get? function.space function.name with
  | none => simp [register_free found, free.mp found]
  | some host =>
    have taken : function.names ∈ calls.map names := by
      rw [found] at free
      simpa using free
    simp [register_taken found, taken, eq_comm]

/-- A function whose names are new is registered, and joins those that are held. -/
theorem Records.register_new (records : registry.Records calls)
    (unused : function.names ∉ calls.map names) :
    ∃ left, registry.register function = .ok left ∧
      left.functions = registry.functions ++ [function] ∧ left.Records (calls ++ [function]) := by
  refine ⟨_, register_free (records.get?_eq_none_iff.mpr unused), rfl, ⟨fun space name => ?_⟩⟩
  have before := records.first space name
  simp only [get?, add] at before ⊢
  rw [List.find?_append, List.find?_append, before]
  simp [names]

/-- A function whose names are taken changes nothing of what is held. -/
theorem Records.refused (records : registry.Records calls)
    (taken : function.names ∈ calls.map names) : registry.Records (calls ++ [function]) where
  first space name := by
    rw [List.find?_append, records.first]
    -- Under its own names there is something already, and under others it is not found.
    by_cases own : function.names = (space, name)
    · obtain ⟨earlier, member, same⟩ := List.mem_map.mp taken
      have found : (calls.find? fun function => function.names = (space, name)).isSome := by
        rw [List.find?_isSome]
        exact ⟨earlier, member, by simp [same, own]⟩
      rw [Option.or_of_isSome found]
    · simp [own]

/-- What a group adds after one more function with new names, it adds together with that function. -/
theorem Adds.cons {kept : List HostFunction} {outcome : Except Fault Unit}
    (unused : function.names ∉ calls.map names)
    (adds : Adds (calls ++ [function]) functions kept outcome) :
    Adds calls (function :: functions) (function :: kept) outcome := by
  -- A function after it has neither its names nor those of an earlier one.
  have later {others : List HostFunction}
      (free : ∀ other ∈ others, other.names ∉ (calls ++ [function]).map names) :
      function.names ∉ others.map names ∧ ∀ other ∈ others, other.names ∉ calls.map names := by
    refine ⟨fun member => ?_, fun other member taken => free other member ?_⟩
    · obtain ⟨other, among, same⟩ := List.mem_map.mp member
      exact free other among (by simp [same])
    · rw [List.map_append]
      exact List.mem_append_left _ taken
  cases adds with
  | all apart free =>
    obtain ⟨fresh, others⟩ := later free
    exact .all (List.nodup_cons.mpr ⟨fresh, apart⟩) (List.forall_mem_cons.mpr ⟨unused, others⟩)
  | upTo split apart free taken =>
    obtain ⟨fresh, others⟩ := later free
    refine .upTo (by rw [split, List.cons_append]) (List.nodup_cons.mpr ⟨fresh, apart⟩)
      (List.forall_mem_cons.mpr ⟨unused, others⟩) ?_
    rwa [List.append_assoc] at taken

/-- A group is registered up to its first duplicate, and the registry then holds what it held and the
functions before that. -/
theorem Records.registerAll (records : registry.Records calls) (functions : List HostFunction) :
    ∃ left kept outcome, registry.registerAll functions = (left, outcome) ∧
      left.functions = registry.functions ++ kept ∧ Adds calls functions kept outcome ∧
      left.Records (calls ++ made calls functions) := by
  induction functions generalizing registry calls with
  | nil =>
    refine ⟨registry, [], .ok (), rfl, by simp, .all .nil nofun, ?_⟩
    simpa [made] using records
  | cons function rest ih =>
    by_cases taken : function.names ∈ calls.map names
    · -- The first function is refused, and nothing after it is tried.
      have refused := records.register_error_iff.mpr ⟨rfl, taken⟩
      have listed : function.names ∈ (calls ++ []).map names := by rwa [List.append_nil]
      refine ⟨registry, [], _, by simp [Registry.registerAll, refused], by simp,
        .upTo rfl .nil nofun listed, ?_⟩
      simpa [made, taken] using records.refused taken
    · -- The first function is registered, and the rest follows it.
      obtain ⟨middle, first, joined, holds⟩ := records.register_new taken
      obtain ⟨left, kept, outcome, ends, others, adds, held⟩ := ih holds
      refine ⟨left, function :: kept, outcome, ?_, ?_, adds.cons taken, ?_⟩
      · rw [Registry.registerAll, first]
        exact ends
      · rw [others, joined, List.append_assoc, List.singleton_append]
      · rw [made, if_neg taken]
        rwa [List.append_assoc, List.singleton_append] at held

/-- After registrations one after another, a registry holds the first function under each pair of names. -/
theorem Records.after (records : registry.Records calls) (registrations : List Registration) :
    (registry.after registrations).Records (history calls registrations) := by
  induction registrations generalizing registry calls with
  | nil => exact records
  | cons registration rest ih =>
    obtain ⟨left, _, _, ends, _, _, held⟩ := records.registerAll registration.functions
    rw [Registry.after, ends, history]
    exact ih held

/-- A function is held exactly if it is the one that is found under its names. -/
theorem mem_iff_get? :
    function ∈ registry.functions ↔ registry.get? function.space function.name = some function := by
  constructor
  · intro member
    -- No function before it has its names, so it is the first to be found.
    obtain ⟨before, rest, split⟩ := List.append_of_mem member
    have distinct := registry.distinct
    rw [split] at distinct
    have free : before.find? (fun other =>
        other.space == function.space && other.name == function.name) = none := by
      rw [List.find?_eq_none]
      intro earlier among
      simpa [Apart] using (List.pairwise_append.mp distinct).2.2 earlier among function List.mem_cons_self
    rw [get?, split, List.find?_append, free]
    simp
  · exact fun found => (get?_names found).1

/-- There are as many functions as pairs of names. -/
theorem Records.size_eq (records : registry.Records calls) :
    registry.size = (calls.map names).dedup.length := by
  have apart : (registry.functions.map names).Nodup := by
    rw [List.Nodup, List.pairwise_map]
    refine registry.distinct.imp fun {first second} different same => different ?_
    simpa [names] using same
  -- Both lists have each pair once, and a pair is held exactly if a function has had it.
  have same : (registry.functions.map names).Perm (calls.map names).dedup := by
    refine (List.perm_ext_iff_of_nodup apart (List.nodup_dedup _)).mpr fun pair => ?_
    rw [List.mem_dedup]
    obtain ⟨space, name⟩ := pair
    have held : (registry.get? space name).isSome ↔ (space, name) ∈ calls.map names := by
      rw [records.first, List.find?_isSome]
      simp
    rw [← held, get?, List.find?_isSome]
    simp [names]
  rw [size, ← same.length_eq, List.length_map]

theorem mem_toList : function ∈ registry.toList ↔ function ∈ registry.functions :=
  (List.mergeSort_perm _ _).mem_iff

/-- The order of listings, in terms of the order of texts. -/
theorem before_iff {first second : HostFunction} :
    HostFunction.before first second = true ↔
      first.space < second.space ∨ first.space = second.space ∧ first.name ≤ second.name := by
  simp [HostFunction.before]

/-- Functions are listed strictly in order, so none of them is listed twice. -/
theorem toList_ordered (registry : Registry) : registry.toList.Pairwise Precedes := by
  -- The sort leaves the functions in order, and no two of them have the same names.
  have sorted : registry.toList.Pairwise fun first second => HostFunction.before first second := by
    refine List.pairwise_mergeSort ?_ ?_ _
    · intro first second third one other
      rw [before_iff] at one other ⊢
      rcases one with space | ⟨space, name⟩ <;> rcases other with further | ⟨further, beyond⟩
      · exact .inl (String.lt_trans space further)
      · exact .inl (further ▸ space)
      · exact .inl (space ▸ further)
      · exact .inr ⟨space.trans further, String.le_trans name beyond⟩
    · intro first second
      rw [Bool.or_eq_true, before_iff, before_iff]
      rcases Std.lt_trichotomy first.space second.space with less | same | more
      · exact .inl (.inl less)
      · exact (String.le_total first.name second.name).imp (.inr ⟨same, ·⟩) (.inr ⟨same.symm, ·⟩)
      · exact .inr (.inl more)
  have apart : registry.toList.Pairwise fun first second =>
      ¬ (first.space = second.space ∧ first.name = second.name) :=
    (List.mergeSort_perm _ _).pairwise_iff (fun {_ _} different same =>
      different ⟨same.1.symm, same.2.symm⟩) |>.mpr registry.distinct
  refine (sorted.and apart).imp fun {first second} ⟨ordered, different⟩ => ?_
  rw [Precedes, ← Utf8.lt_iff_encode_lt, ← Utf8.lt_iff_encode_lt]
  refine (before_iff.mp ordered).imp_right fun ⟨space, name⟩ => ⟨space, ?_⟩
  exact Std.lt_of_le_of_ne name fun same => different ⟨space, same⟩

/-- A function registered by itself is held from then on, or it is refused and nothing changes. -/
theorem Records.register_alone (records : registry.Records calls) :
    if function.names ∈ calls.map names then
      registry.registerAll [function] =
        (registry, .error (.duplicateHostFunction function.space function.name))
    else
      ∃ left, registry.registerAll [function] = (left, .ok ()) ∧
        left.functions = registry.functions ++ [function] := by
  split
  next taken => simp [Registry.registerAll, records.register_error_iff.mpr ⟨rfl, taken⟩]
  next unused =>
    obtain ⟨left, registered, joined, _⟩ := records.register_new unused
    exact ⟨left, by simp [Registry.registerAll, registered], joined⟩

/-- After any registrations, whether they succeeded or not, a registry finds under a pair of names the first
function that was registered under it, and has as many functions as there are pairs. It lists each of them
once, in the order of the bytes of namespaces and names. A further function is refused exactly if its names
have been registered, which its fault names, and nothing changes; a group stops at the first such function
and keeps those before it, in order. -/
theorem first_registration_wins (registrations : List Registration) :
    let registry := empty.after registrations
    let calls := history [] registrations
    (∀ space name,
      registry.get? space name = (calls.find? fun function => function.names = (space, name)) ∧
      ∀ function ∈ registry.get? space name, function.names = (space, name)) ∧
    registry.size = (calls.map names).dedup.length ∧
    (registry.size = 0 ↔ calls = []) ∧
    registry.toList.Pairwise Precedes ∧
    (∀ function, function ∈ registry.toList ↔
      registry.get? function.space function.name = some function) ∧
    (∀ function fault, registry.register function = .error fault ↔
      fault = .duplicateHostFunction function.space function.name ∧ function.names ∈ calls.map names) ∧
    (∀ function,
      if function.names ∈ calls.map names then
        registry.registerAll [function] =
          (registry, .error (.duplicateHostFunction function.space function.name))
      else
        ∃ left, registry.registerAll [function] = (left, .ok ()) ∧
          left.functions = registry.functions ++ [function]) ∧
    ∀ next : Registration, ∃ left kept outcome,
      registry.registerAll next.functions = (left, outcome) ∧
        left.functions = registry.functions ++ kept ∧ Adds calls next.functions kept outcome := by
  intro registry calls
  have records : registry.Records calls := records_empty.after registrations
  refine ⟨fun space name => ⟨records.first space name, fun function found => ?_⟩, records.size_eq, ?_,
    toList_ordered registry, fun function => mem_toList.trans mem_iff_get?,
    fun function fault => records.register_error_iff, fun function => records.register_alone,
    fun next => ?_⟩
  · exact Prod.ext (get?_names found).2.1 (get?_names found).2.2
  · rw [records.size_eq, List.length_eq_zero_iff, List.dedup_eq_nil, List.map_eq_nil_iff]
  · obtain ⟨left, kept, outcome, ends, others, adds, -⟩ := records.registerAll next.functions
    exact ⟨left, kept, outcome, ends, others, adds⟩

/-- The standard group, then a text of its own under one of its names, then the logging group in a namespace
of which the first is a prefix: the text is refused, and eight functions are held. -/
theorem first_registration_wins_standard :
    let text := Capability.getString "other" "env"
    let registry := empty.after [.standard "env", .one text, .logging "env2"]
    (∀ function ∈ registry.get? "env2" "host_log_string", function.names = ("env2", "host_log_string")) ∧
      registry.size = 8 ∧
      registry.register text = .error (.duplicateHostFunction "env" "host_get_string") ∧
      registry.registerAll [text] =
        (registry, .error (.duplicateHostFunction "env" "host_get_string")) := by
  intro text registry
  obtain ⟨found, count, -, -, -, refused, alone, -⟩ :=
    first_registration_wins [.standard "env", .one text, .logging "env2"]
  have taken : text.names ∈ (history [] [.standard "env", .one text, .logging "env2"]).map names := by
    decide
  refine ⟨(found _ _).2, count.trans (by decide), (refused text _).mpr ⟨rfl, taken⟩, ?_⟩
  have again := alone text
  rw [if_pos taken] at again
  exact again

end Registry

end GuestBoundary
