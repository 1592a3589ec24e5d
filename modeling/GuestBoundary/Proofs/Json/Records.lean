import GuestBoundary.Proofs.Json.Layouts

/-! Every text of a record is read as the record that it stands for, and an object that gives a field a
second time is rejected. -/

namespace GuestBoundary

namespace Json

/-- What stands before an item: a comma, unless it is the first. -/
def comma (first : Bool) : List Char := if first then [] else [',']

theorem skipBlanks_comma (rest : List Char) : skipBlanks (',' :: rest) = ',' :: rest := rfl

namespace Layout

variable {ρ ε : Type} (layout : Layout ρ ε)

section Arrays

theorem readElements_blank {blank : List Char} (isBlank : Blank blank) (first : Bool) (record : ρ)
    (fields : List (RecordField ρ)) (rest : List Char) :
    readElements first record fields (blank ++ rest) = readElements first record fields rest := by
  cases fields <;> simp only [readElements, skipBlanks_append isBlank]

/-- An element is read by the field that it is for. -/
theorem readElements_element {entry : ε} {text : List Char} (element : layout.ElementText entry text)
    {field : RecordField ρ} (mem : field ∈ layout.fields) (named : field.name = layout.name entry)
    (first : Bool) (record : ρ) (fields : List (RecordField ρ)) {rest : List Char}
    (delimited : Delimited rest) :
    readElements first record (field :: fields) (comma first ++ (text ++ rest)) =
      readElements false (layout.override record entry) fields rest := by
  cases element with
  | @intro _ before value behind isBefore formed isBehind =>
    obtain ⟨c, tail, rfl, solid, other⟩ := layout.apart formed
    have read := @layout.reads entry field mem named record _ _ [] (behind ++ rest) ⟨formed, rfl⟩
      (by simp [Blank]) (delimited.after_blank isBehind)
    have skipped : skipBlanks (before ++ (c :: tail ++ behind) ++ rest) =
        c :: (tail ++ (behind ++ rest)) := by
      simp [skipBlanks_append isBefore, skipBlanks_cons solid]
    rw [← readElements_blank isBehind false]
    rw [List.nil_append, List.cons_append] at read
    -- The value does not start like the end of the array.
    cases first with
    | true =>
      simp only [comma, if_true, List.nil_append, readElements, skipped]
      split <;> simp_all [bind, Except.bind]
    | false =>
      simp only [comma, Bool.false_eq_true, if_false, List.cons_append, List.nil_append,
        readElements, skipBlanks_comma] at skipped ⊢
      simp only [skipped]
      split <;> simp_all [bind, Except.bind]

/-- Elements are read by the fields in order. -/
theorem readElements_elements {entries : List ε} {text : List Char}
    (elements : Separated layout.ElementText entries text) {fields : List (RecordField ρ)}
    (known : fields ⊆ layout.fields)
    (inOrder : entries.map layout.name <+: fields.map (·.name)) (first : Bool) (record : ρ)
    {rest : List Char} (delimited : Delimited rest) :
    ∃ others, readElements first record fields (comma first ++ (text ++ rest)) =
      readElements false (entries.foldl layout.override record) others rest := by
  -- The fields are used up from the first one on, each by the next element.
  induction elements generalizing fields first record with
  | one element =>
    cases fields with
    | nil => simp at inOrder
    | cons field fields =>
      obtain ⟨named, _⟩ := List.cons_prefix_cons.mp inOrder
      exact ⟨fields, layout.readElements_element element (known List.mem_cons_self) named.symm first
        record fields delimited⟩
  | more element _ ih =>
    cases fields with
    | nil => simp at inOrder
    | cons field fields =>
      obtain ⟨named, inOrder⟩ := List.cons_prefix_cons.mp inOrder
      obtain ⟨others, read⟩ := ih (fun _ mem => known (.tail _ mem)) inOrder false
        (layout.override record _)
      refine ⟨others, ?_⟩
      rw [List.append_assoc, List.cons_append, layout.readElements_element element
        (known List.mem_cons_self) named.symm first record fields (delimited_cons ',' (by decide) _)]
      exact read

/-- An array gives the defaults, overridden by its values. -/
theorem readRecord_array {entries : List ε} {text : List Char} (array : layout.ArrayText entries text)
    {blank : List Char} (isBlank : Blank blank) (rest : List Char) :
    readRecord layout.fields layout.defaults (blank ++ (text ++ rest)) =
      .ok (layout.of entries, rest) := by
  obtain ⟨inOrder, inner, listed, rfl⟩ := array
  have opened : readRecord layout.fields layout.defaults (blank ++ ('[' :: inner ++ [']'] ++ rest)) =
      readElements true layout.defaults layout.fields (inner ++ ']' :: rest) := by
    rw [readRecord, skipBlanks_append isBlank]
    simp [skipBlanks_cons (c := '[') rfl]
  have closes (record : ρ) (first : Bool) (fields : List (RecordField ρ)) :
      readElements first record fields (']' :: rest) = .ok (record, rest) := by
    cases fields <;> cases first <;> rfl
  rw [opened]
  cases listed with
  | empty isInner => rw [readElements_blank isInner, closes]; rfl
  | items elements =>
    obtain ⟨others, read⟩ := layout.readElements_elements elements (List.Subset.refl _) inOrder true
      layout.defaults (delimited_cons ']' (by decide) rest)
    exact read.trans (closes _ false others)

end Arrays

section Objects

theorem nextMember_blank {blank : List Char} (isBlank : Blank blank) (first : Bool) (rest : List Char) :
    nextMember first (blank ++ rest) = nextMember first rest := by
  simp only [nextMember, skipBlanks_append isBlank]

/-- A member starts with its name, perhaps after a comma. -/
theorem nextMember_named {blank : List Char} (isBlank : Blank blank) (first : Bool) (rest : List Char) :
    nextMember first (comma first ++ (blank ++ '"' :: rest)) = .ok (true, rest) := by
  cases first with
  | true => exact nextMember_blank isBlank true _
  | false =>
    simp only [comma, Bool.false_eq_true, if_false, List.cons_append, List.nil_append, nextMember,
      skipBlanks_comma, skipBlanks_append isBlank]
    rfl

theorem readColon_blank {blank : List Char} (isBlank : Blank blank) (rest : List Char) :
    readColon (blank ++ ':' :: rest) = .ok rest := by
  rw [readColon, skipBlanks_append isBlank]
  rfl

theorem readMembers_blank {blank : List Char} (isBlank : Blank blank) (fields : List (RecordField ρ))
    (bound : Nat) (first : Bool) (seen : List String) (record : ρ) (rest : List Char) :
    readMembers fields bound first seen record (blank ++ rest) =
      readMembers fields bound first seen record rest := by
  cases bound with
  | zero => rfl
  | succ bound => simp only [readMembers, nextMember_blank isBlank]

/-- A field is found by its name. -/
theorem exists_field {name : String} (known : name ∈ layout.fields.map (·.name)) :
    ∃ field ∈ layout.fields, field.name = name ∧
      layout.fields.find? (fun field => field.name == name) = some field := by
  obtain ⟨field, mem, named⟩ := List.mem_map.mp known
  obtain ⟨found, isFound⟩ : ∃ found,
      layout.fields.find? (fun field => field.name == name) = some found :=
    Option.isSome_iff_exists.mp (List.find?_isSome.mpr ⟨field, mem, by simp [named]⟩)
  exact ⟨found, List.mem_of_find?_eq_some isFound, by simpa using List.find?_some isFound, isFound⟩

/-- The entry of a member is read by its field, and any other member is passed over. -/
theorem readMembers_member {member : Member ε} {text : List Char}
    (formed : layout.MemberText member text) {seen : List String}
    (fresh : ∀ entry ∈ given [member], layout.name entry ∉ seen) (bound : Nat) (first : Bool)
    (record : ρ) {rest : List Char} (delimited : Delimited rest) :
    readMembers layout.fields (bound + 1) first seen record (comma first ++ (text ++ rest)) =
      readMembers layout.fields bound false ((given [member]).map layout.name ++ seen)
        ((given [member]).foldl layout.override record) rest := by
  cases formed with
  | @entry entry before name after ahead value behind isBefore quoted isAfter isAhead formed isBehind =>
    obtain ⟨tail, opened, named⟩ := readString_textForm quoted
      (after ++ ':' :: (ahead ++ (value ++ (behind ++ rest))))
    obtain ⟨field, mem, same, found⟩ := layout.exists_field (layout.named entry)
    have unseen : seen.contains (layout.name entry) = false := by
      simpa using fresh entry (by simp [given])
    have read := layout.reads entry field mem same record ⟨formed, rfl⟩ isAhead
      (delimited.after_blank isBehind)
    simp only [List.append_assoc, List.cons_append] at opened ⊢
    rw [opened, readMembers, nextMember_named isBefore]
    simp only [bind, Except.bind, named, found, unseen, Bool.false_eq_true, if_false,
      readColon_blank isAfter, read]
    exact readMembers_blank isBehind layout.fields bound false _ _ rest
  | @other unknown before name after value isBefore quoted foreign isAfter element =>
    obtain ⟨tail, opened, named⟩ := readString_textForm quoted (after ++ ':' :: (value ++ rest))
    have unfound : layout.fields.find? (fun field => field.name == unknown) = none := by
      rw [List.find?_eq_none]
      intro field mem same
      exact foreign (List.mem_map.mpr ⟨field, mem, by simpa using same⟩)
    obtain ⟨blank, isBlank, passed⟩ := skipValue_append element delimited
    simp only [List.append_assoc, List.cons_append] at opened ⊢
    rw [opened, readMembers, nextMember_named isBefore]
    simp only [bind, Except.bind, named, unfound, readColon_blank isAfter, passed]
    exact readMembers_blank isBlank layout.fields bound false seen record rest

/-- Members are read up to what comes after them, and their fields are seen. -/
theorem readMembers_members {members : List (Member ε)} {text : List Char}
    (listed : Separated layout.MemberText members text) {seen : List String}
    (once : layout.Once (given members))
    (fresh : ∀ entry ∈ given members, layout.name entry ∉ seen) (bound : Nat) (first : Bool)
    (record : ρ) {rest : List Char} (delimited : Delimited rest) :
    ∃ others, (∀ name, name ∈ others ↔ name ∈ (given members).map layout.name ∨ name ∈ seen) ∧
      readMembers layout.fields (bound + members.length) first seen record
          (comma first ++ (text ++ rest)) =
        readMembers layout.fields bound false others
          ((given members).foldl layout.override record) rest := by
  induction listed generalizing seen first record with
  | one formed =>
    exact ⟨_, by simp, layout.readMembers_member formed fresh bound first record delimited⟩
  | @more member members text tail formed _ ih =>
    have split : given (member :: members) = given [member] ++ given members := by
      rw [given, ← List.singleton_append, List.filterMap_append]
      rfl
    rw [split] at once fresh ⊢
    rw [Once, List.map_append, List.nodup_append] at once
    obtain ⟨_, once, apart⟩ := once
    -- What the first member gives is seen when the others are read.
    have unseen : ∀ entry ∈ given members,
        layout.name entry ∉ (given [member]).map layout.name ++ seen := by
      intro entry mem
      rw [List.mem_append, not_or]
      exact ⟨fun again => apart _ again _ (List.mem_map_of_mem mem) rfl,
        fresh entry (List.mem_append_right _ mem)⟩
    obtain ⟨others, all, read⟩ := ih once unseen false ((given [member]).foldl layout.override record)
    refine ⟨others, fun name => ?_, ?_⟩
    · rw [all, List.map_append, List.mem_append, List.mem_append]
      grind
    · rw [List.append_assoc, List.cons_append, List.length_cons, ← Nat.add_assoc,
        layout.readMembers_member formed (fun entry mem => fresh entry (List.mem_append_left _ mem)) _
          first record (delimited_cons ',' (by decide) _), List.foldl_append]
      exact read

theorem length_le_of_separated {members : List (Member ε)} {text : List Char}
    (listed : Separated layout.MemberText members text) : members.length ≤ text.length := by
  have nonempty {member : Member ε} {text : List Char} (formed : layout.MemberText member text) :
      1 ≤ text.length := by
    cases formed <;> simp <;> omega
  induction listed with
  | one formed => exact nonempty formed
  | more formed _ ih =>
    have := nonempty formed
    simp
    omega

/-- After its members, an object is read on with room for at least another. -/
theorem readRecord_members {members : List (Member ε)} {text : List Char}
    (listed : Separated layout.MemberText members text) (once : layout.Once (given members))
    {blank : List Char} (isBlank : Blank blank) {rest : List Char} (delimited : Delimited rest) :
    ∃ bound seen, (∀ name, name ∈ seen ↔ name ∈ (given members).map layout.name) ∧
      readRecord layout.fields layout.defaults (blank ++ '\x7b' :: (text ++ rest)) =
        readMembers layout.fields (bound + 1) false seen (layout.of (given members)) rest := by
  have few := layout.length_le_of_separated listed
  obtain ⟨bound, enough⟩ : ∃ bound, (text ++ rest).length + 1 = bound + 1 + members.length :=
    ⟨(text ++ rest).length - members.length, by simp; omega⟩
  have unseen : ∀ entry ∈ given members, layout.name entry ∉ ([] : List String) := by simp
  obtain ⟨seen, all, read⟩ := layout.readMembers_members listed once unseen (bound + 1) true
    layout.defaults delimited
  rw [← enough] at read
  refine ⟨bound, seen, fun name => by simp [all], ?_⟩
  rw [readRecord, skipBlanks_append isBlank]
  exact read

/-- An object gives the defaults, overridden by its entries. -/
theorem readRecord_object {members : List (Member ε)} {text : List Char}
    (object : layout.ObjectText members text) (once : layout.Once (given members))
    {blank : List Char} (isBlank : Blank blank) (rest : List Char) :
    readRecord layout.fields layout.defaults (blank ++ (text ++ rest)) =
      .ok (layout.of (given members), rest) := by
  obtain ⟨inner, listed, rfl⟩ := object
  have closes (record : ρ) (bound : Nat) (first : Bool) (seen : List String) :
      readMembers layout.fields (bound + 1) first seen record ('\x7d' :: rest) =
        .ok (record, rest) := by
    cases first <;> rfl
  have opened : blank ++ ('\x7b' :: inner ++ ['\x7d'] ++ rest) =
      blank ++ '\x7b' :: (inner ++ '\x7d' :: rest) := by simp
  rw [opened]
  cases listed with
  | empty isInner =>
    rw [readRecord, skipBlanks_append isBlank]
    exact (readMembers_blank isInner layout.fields _ true [] layout.defaults _).trans (closes _ _ _ _)
  | items listed =>
    obtain ⟨bound, seen, _, read⟩ := layout.readRecord_members listed once isBlank
      (delimited_cons '\x7d' (by decide) rest)
    exact read.trans (closes _ _ _ _)

/-- Another member is read after what has been seen. -/
theorem readRecord_lead {members : List (Member ε)} {lead : List Char}
    (leads : layout.Lead members lead) (once : layout.Once (given members)) {blank : List Char}
    (isBlank : Blank blank) (rest : List Char) :
    ∃ bound first seen, (∀ name, name ∈ seen ↔ name ∈ (given members).map layout.name) ∧
      readRecord layout.fields layout.defaults (blank ++ '\x7b' :: (lead ++ rest)) =
        readMembers layout.fields (bound + 1) first seen (layout.of (given members))
          (comma first ++ rest) := by
  cases leads with
  | start =>
    refine ⟨rest.length, true, [], by simp [given], ?_⟩
    rw [readRecord, skipBlanks_append isBlank]
    rfl
  | after listed =>
    obtain ⟨bound, seen, all, read⟩ := layout.readRecord_members listed once isBlank
      (delimited_cons ',' (by decide) rest)
    refine ⟨bound, false, seen, all, ?_⟩
    rw [List.append_assoc]
    exact read

/-- A field that is given a second time is an error, whatever follows. -/
theorem readRecord_repeats {within : String → List Char → Prop}
    (rejects : ∀ name value, within name value → ∀ field ∈ layout.fields, field.name = name →
      ∀ record blank, Blank blank → field.read record (blank ++ value) = .error .wrongType)
    {text : List Char} (repeats : layout.Repeats within text) {blank : List Char}
    (isBlank : Blank blank) :
    readRecord layout.fields layout.defaults (blank ++ text) = .error .wrongType := by
  cases repeats with
  | @again members name lead before quoted rest leads once again isBefore formed =>
    -- The name is among those seen, which is found out before its value is looked at.
    obtain ⟨tail, opened, read⟩ := readString_textForm formed rest
    obtain ⟨bound, first, seen, all, started⟩ := layout.readRecord_lead leads once isBlank
      (before ++ (quoted ++ rest))
    obtain ⟨entry, _, rfl⟩ := List.mem_map.mp again
    obtain ⟨field, _, _, found⟩ := layout.exists_field (layout.named entry)
    have known : seen.contains (layout.name entry) = true := by simpa using (all _).mpr again
    rw [started, opened, readMembers, nextMember_named isBefore]
    simp only [bind, Except.bind, read, found, known, if_true]
  | @inside members name lead before quoted after ahead value leads once isField fresh isBefore formed
      isAfter isAhead broken =>
    -- The field is read for the first time, and its reader fails.
    obtain ⟨tail, opened, read⟩ := readString_textForm formed (after ++ ':' :: (ahead ++ value))
    obtain ⟨bound, first, seen, all, started⟩ := layout.readRecord_lead leads once isBlank
      (before ++ (quoted ++ (after ++ ':' :: (ahead ++ value))))
    obtain ⟨field, mem, named, found⟩ := layout.exists_field isField
    have unknown : seen.contains name = false := by simpa using fun again => fresh ((all _).mp again)
    rw [started, opened, readMembers, nextMember_named isBefore]
    simp only [bind, Except.bind, read, found, unknown, Bool.false_eq_true, if_false,
      readColon_blank isAfter, rejects name value broken field mem named _ ahead isAhead]

end Objects

/-- Every text of a record is read as that record. -/
theorem readRecord_reads : Reads (readRecord layout.fields layout.defaults) layout.RecordText := by
  rintro record text blank rest formed isBlank _
  cases formed with
  | object object once => exact layout.readRecord_object object once isBlank rest
  | array array => exact layout.readRecord_array array isBlank rest

theorem recordText_apart : Apart ']' layout.RecordText := by
  rintro record text formed
  cases formed with
  | object object =>
    obtain ⟨inner, _, rfl⟩ := object
    exact ⟨'\x7b', inner ++ ['\x7d'], rfl, rfl, by decide⟩
  | array array =>
    obtain ⟨_, inner, _, rfl⟩ := array
    exact ⟨'[', inner ++ [']'], rfl, rfl, by decide⟩

/-- A whole text of a record, blanks around it, is read as that record. -/
theorem readAll_recordText {record : ρ} {text before after : List Char}
    (formed : layout.RecordText record text) (isBefore : Blank before) (isAfter : Blank after) :
    readAll (readRecord layout.fields layout.defaults) (String.ofList (before ++ (text ++ after))) =
      .ok record := by
  have ends : Delimited [] := by simp [Delimited]
  have delimited : Delimited after := by simpa using ends.after_blank isAfter
  have nothing : skipBlanks after = [] := by simpa [skipBlanks] using skipBlanks_append isAfter []
  simp only [readAll, String.toList_ofList, layout.readRecord_reads formed isBefore delimited, bind,
    Except.bind, nothing, if_true]
  rfl

end Layout

end Json

end GuestBoundary
