import Mathlib.Algebra.GroupWithZero.Nat
import GuestBoundary.Proofs.Registration

/-! Host functions in two levels, by namespace and then by name: registration, look-up, size and order are
those of a registry, which keeps its functions in one list. -/

namespace GuestBoundary

namespace HostFunction

/-- Of two functions, at most one comes before the other. -/
theorem Precedes.asymm {first second : HostFunction} (one : first.Precedes second)
    (other : second.Precedes first) : False := by
  have apart {first second : String} (one : Utf8.encode first < Utf8.encode second)
      (other : Utf8.encode second < Utf8.encode first) : False :=
    String.lt_asymm (Utf8.lt_iff_encode_lt.mpr one) (Utf8.lt_iff_encode_lt.mpr other)
  rcases one with space | ⟨space, name⟩ <;> rcases other with further | ⟨further, beyond⟩
  · exact apart space further
  · exact apart space (further ▸ space)
  · exact apart further (space ▸ further)
  · exact apart name beyond

/-- Two listings in order are the same if they have the same members. -/
theorem eq_of_precedes {listed ordered : List HostFunction} (first : listed.Pairwise Precedes)
    (second : ordered.Pairwise Precedes)
    (members : ∀ function, function ∈ listed ↔ function ∈ ordered) : listed = ordered := by
  -- In order means without repetition, so the same members make the one a permutation of the other.
  have distinct {functions : List HostFunction} (precede : functions.Pairwise Precedes) :
      functions.Nodup := by
    refine precede.imp fun {first second} precedes => ?_
    rintro rfl
    exact precedes.asymm precedes
  have same : listed.Perm ordered :=
    (List.perm_ext_iff_of_nodup (distinct first) (distinct second)).mpr members
  exact same.eq_of_pairwise (fun _ _ _ _ one other => (one.asymm other).elim) first second

end HostFunction

/-- Host functions by namespace, and in each namespace by name, in the order of the keys. -/
structure Namespaces where
  spaces : Std.TreeMap String (Std.TreeMap String HostFunction)

namespace Namespaces

/-- No namespaces yet. -/
def empty : Namespaces := ⟨∅⟩

/-- The function under a namespace and name. -/
def get? (table : Namespaces) (space name : String) : Option HostFunction := do
  let functions ← table.spaces[space]?
  functions[name]?

/-- Register a function in its namespace, which may be a new one; a name that is taken stays with its
first function. -/
def register (table : Namespaces) (function : HostFunction) : Except Fault Namespaces :=
  let functions := table.spaces.getD function.space ∅
  if functions.contains function.name then
    .error (.duplicateHostFunction function.space function.name)
  else .ok ⟨table.spaces.insert function.space (functions.insert function.name function)⟩

/-- Register functions one after another up to the first that fails; those before it stay. -/
def registerAll (table : Namespaces) : List HostFunction → Namespaces × Except Fault Unit
  | [] => (table, .ok ())
  | function :: rest =>
    match table.register function with
    | .ok table => table.registerAll rest
    | .error fault => (table, .error fault)

/-- The table after registrations one after another, whether they succeed or not. -/
def after (table : Namespaces) : List Registration → Namespaces
  | [] => table
  | registration :: rest => (table.registerAll registration.functions).1.after rest

/-- The number of functions, namespace by namespace. -/
def size (table : Namespaces) : Nat := (table.spaces.toList.map fun entry => entry.2.size).sum

/-- All functions, namespace by namespace and then by name. -/
def toList (table : Namespaces) : List HostFunction :=
  table.spaces.toList.flatMap fun entry => entry.2.toList.map (·.2)

/-- A table finds what a registry finds. -/
def Holds (table : Namespaces) (registry : Registry) : Prop :=
  ∀ space name, table.get? space name = registry.get? space name

variable {table next : Namespaces} {registry left : Registry} {function : HostFunction}

/-- Nothing is found where nothing has been registered. -/
theorem holds_empty : empty.Holds .empty := by
  intro space name
  simp [empty, get?, Registry.get?, Registry.empty]

/-- What is found after a function has been put under its names. -/
theorem get?_insert (table : Namespaces) (function : HostFunction) (space name : String) :
    get? ⟨table.spaces.insert function.space
      ((table.spaces.getD function.space ∅).insert function.name function)⟩ space name =
      if function.space = space ∧ function.name = name then some function
      else table.get? space name := by
  simp only [get?, Std.TreeMap.getElem?_insert, Std.LawfulEqCmp.compare_eq_iff_eq,
    Std.TreeMap.getD_eq_getD_getElem?]
  by_cases own : function.space = space
  · subst own
    by_cases same : function.name = name
    · simp [same]
    · -- In the same namespace, what stands under another name stays, also if the namespace is new.
      cases table.spaces[function.space]? <;> simp [same, Std.TreeMap.getElem?_insert]
  · simp [own]

/-- A name is taken in a namespace exactly if it is found there. -/
theorem contains_iff :
    (table.spaces.getD function.space ∅).contains function.name = true ↔
      (table.get? function.space function.name).isSome = true := by
  simp only [get?, Std.TreeMap.getD_eq_getD_getElem?, Std.TreeMap.contains_eq_isSome_getElem?]
  cases table.spaces[function.space]? <;> simp

/-- A function is registered in a table as it is in a registry that finds the same, or refused for the
same reason, and both find the same afterwards. -/
theorem Holds.register (holds : table.Holds registry) (function : HostFunction) :
    (∃ fault, registry.register function = .error fault ∧ table.register function = .error fault) ∨
    ∃ next left, registry.register function = .ok left ∧ table.register function = .ok next ∧
      next.Holds left := by
  have taken : (table.spaces.getD function.space ∅).contains function.name = true ↔
      (registry.get? function.space function.name).isSome = true := by
    rw [← holds]
    exact contains_iff
  cases found : registry.get? function.space function.name with
  | some host =>
    rw [found] at taken
    refine .inl ⟨_, Registry.register_taken found, ?_⟩
    simp [Namespaces.register, taken]
  | none =>
    rw [found] at taken
    refine .inr ⟨_, _, Registry.register_free found, if_neg (by simpa using taken), fun space name => ?_⟩
    rw [get?_insert, holds]
    -- In the registry the new function comes last, where its names are not found before it.
    by_cases own : function.space = space ∧ function.name = name
    · obtain ⟨rfl, rfl⟩ := own
      rw [Registry.get?] at found
      simp [Registry.get?, Registry.add, List.find?_append, found]
    · rw [if_neg own]
      simp [Registry.get?, Registry.add, List.find?_append, own]

/-- A group of functions is registered in a table as it is in a registry that finds the same. -/
theorem Holds.registerAll (holds : table.Holds registry) (functions : List HostFunction) :
    (table.registerAll functions).2 = (registry.registerAll functions).2 ∧
      (table.registerAll functions).1.Holds (registry.registerAll functions).1 := by
  -- By induction on the functions, up to the first that both refuse.
  induction functions generalizing table registry with
  | nil => exact ⟨rfl, holds⟩
  | cons function rest ih =>
    rcases holds.register function with ⟨fault, one, other⟩ | ⟨next, left, one, other, held⟩
    · simp only [Namespaces.registerAll, Registry.registerAll, one, other]
      exact ⟨trivial, holds⟩
    · simp only [Namespaces.registerAll, Registry.registerAll, one, other]
      exact ih held

/-- After the same registrations, a table finds what a registry finds. -/
theorem Holds.after (holds : table.Holds registry) (registrations : List Registration) :
    (table.after registrations).Holds (registry.after registrations) := by
  induction registrations generalizing table registry with
  | nil => exact holds
  | cons registration rest ih => exact ih (holds.registerAll registration.functions).2

/-- A function is listed exactly if it is found under some names. -/
theorem mem_toList : function ∈ table.toList ↔ ∃ space name, table.get? space name = some function := by
  simp only [toList, List.mem_flatMap, List.mem_map, Prod.exists,
    Std.TreeMap.mem_toList_iff_getElem?_eq_some, get?]
  -- Both sides speak of an entry of the outer map and one of the inner map in it.
  constructor
  · rintro ⟨space, functions, here, name, found, there, rfl⟩
    exact ⟨space, name, by simp [here, there]⟩
  · rintro ⟨space, name, found⟩
    obtain ⟨functions, here, there⟩ := Option.bind_eq_some_iff.mp found
    exact ⟨space, functions, here, name, function, there, rfl⟩

/-- The functions of a table that finds what a registry finds are listed in order. -/
theorem Holds.toList_ordered (holds : table.Holds registry) :
    table.toList.Pairwise HostFunction.Precedes := by
  -- A function stands under its own names, and the keys are in order on both levels.
  have keyed {space name : String} {functions : Std.TreeMap String HostFunction compare}
      {function : HostFunction} (here : (space, functions) ∈ table.spaces.toList)
      (there : (name, function) ∈ functions.toList) : function.space = space ∧ function.name = name := by
    rw [Std.TreeMap.mem_toList_iff_getElem?_eq_some] at here there
    have found : table.get? space name = some function := by simp [get?, here, there]
    rw [holds] at found
    exact (Registry.get?_names found).2
  have less {first second : String} (ordered : compare first second = .lt) :
      Utf8.encode first < Utf8.encode second :=
    Utf8.lt_iff_encode_lt.mp (compareOfLessAndEq_eq_lt.mp ordered)
  refine List.pairwise_flatMap.mpr ⟨fun ⟨space, functions⟩ here => ?_, ?_⟩
  -- In one namespace the names decide, in two of them the namespaces.
  · rw [List.pairwise_map]
    refine functions.ordered_keys_toList.imp_of_mem ?_
    rintro ⟨one, first⟩ ⟨two, second⟩ member another ordered
    obtain ⟨space, rfl⟩ := keyed here member
    obtain ⟨other, rfl⟩ := keyed here another
    exact .inr ⟨space.trans other.symm, less ordered⟩
  · refine table.spaces.ordered_keys_toList.imp_of_mem ?_
    rintro ⟨one, firsts⟩ ⟨two, seconds⟩ here there ordered first member second another
    obtain ⟨⟨name, _⟩, among, rfl⟩ := List.mem_map.mp member
    obtain ⟨⟨other, _⟩, amongst, rfl⟩ := List.mem_map.mp another
    obtain ⟨rfl, _⟩ := keyed here among
    obtain ⟨rfl, _⟩ := keyed there amongst
    exact .inl (less ordered)

/-- A table that finds what a registry finds lists the same functions in the same order. -/
theorem Holds.toList_eq (holds : table.Holds registry) : table.toList = registry.toList := by
  -- Both listings are in order, so that only their members are to be compared.
  refine HostFunction.eq_of_precedes holds.toList_ordered (Registry.toList_ordered registry) ?_
  intro function
  rw [mem_toList, Registry.mem_toList]
  constructor
  · rintro ⟨space, name, found⟩
    rw [holds] at found
    exact (Registry.get?_names found).1
  · intro member
    have found := Registry.mem_iff_get?.mp member
    exact ⟨function.space, function.name, (holds _ _).trans found⟩

/-- As many functions are counted namespace by namespace as are listed. -/
theorem length_toList (table : Namespaces) : table.toList.length = table.size := by
  -- A listing of lists is as long as these are together.
  simp [toList, size, List.length_flatMap]

/-- Functions that are kept by namespace and then by name are a registry: whatever is registered, one by one
or in groups, each registration ends in the same way, and the same functions are found, counted and listed
in the same order. -/
theorem after_eq (registrations : List Registration) :
    let table := empty.after registrations
    let registry := Registry.empty.after registrations
    (∀ space name, table.get? space name = registry.get? space name) ∧
      table.size = registry.size ∧ table.toList = registry.toList ∧
      ∀ next : Registration,
        (table.registerAll next.functions).2 = (registry.registerAll next.functions).2 := by
  intro table registry
  have holds : table.Holds registry := holds_empty.after registrations
  refine ⟨holds, ?_, holds.toList_eq, fun next => (holds.registerAll next.functions).1⟩
  -- The sizes are those of the listings, and a listing of the registry only reorders it.
  rw [← length_toList, holds.toList_eq]
  exact List.length_mergeSort _

end Namespaces

end GuestBoundary
