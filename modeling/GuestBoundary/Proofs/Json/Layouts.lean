import Mathlib.Data.List.Induction
import Mathlib.Tactic.Tauto
import GuestBoundary.Proofs.Json.Reading

/-! The texts of a record: an object of its fields among other members, or an array of its first fields.
Such a text stands for the defaults, overridden by what it lists. -/

namespace GuestBoundary

namespace Json

section Lists

variable {ι : Type}

/-- Items with commas between them, at least one. -/
inductive Separated (form : Form ι) : Form (List ι)
  | one {item : ι} {text : List Char} : form item text → Separated form [item] text
  | more {item : ι} {items : List ι} {text rest : List Char} : form item text →
      Separated form items rest → Separated form (item :: items) (text ++ ',' :: rest)

/-- Any number of items with commas between them, and blanks where there is none. -/
inductive Listed (form : Form ι) : Form (List ι)
  | empty {blank : List Char} : Blank blank → Listed form [] blank
  | items {items : List ι} {text : List Char} : Separated form items text → Listed form items text

end Lists

/-- A member of an object: an entry for a field, or another name, whose value does not count. -/
inductive Member (ε : Type) where
  | entry (entry : ε)
  | other (name : String)

/-- The entries among members. -/
def given {ε : Type} (members : List (Member ε)) : List ε :=
  members.filterMap fun
    | .entry entry => some entry
    | .other _ => none

/-- How texts stand for records of a type, entry by entry: an entry is a field with its value. -/
structure Layout (ρ ε : Type) where
  fields : List (RecordField ρ)
  /-- The record of a text that gives no field. -/
  defaults : ρ
  /-- The name of an entry's field. -/
  name : ε → String
  /-- The texts that stand for the value of an entry. -/
  form : Form ε
  override : ρ → ε → ρ
  /-- The entries for all fields of a record. -/
  entries : ρ → List ε
  distinct : (fields.map (·.name)).Nodup
  inOrder : ∀ record, (entries record).map name = fields.map (·.name)
  named : ∀ entry, name entry ∈ fields.map (·.name)
  reads : ∀ entry, ∀ field ∈ fields, field.name = name entry → ∀ record,
    Reads (field.read record) fun result text => form entry text ∧ result = override record entry
  /-- No value starts like the end of an array. -/
  apart : Apart ']' form
  mem_override : ∀ record entry other, other ∈ entries (override record entry) ↔
    other = entry ∨ other ∈ entries record ∧ name other ≠ name entry
  ext : ∀ record other, (∀ entry, entry ∈ entries record ↔ entry ∈ entries other) → record = other

namespace Layout

variable {ρ ε : Type} (layout : Layout ρ ε)

/-- The defaults, overridden by entries. -/
def of (entries : List ε) : ρ := entries.foldl layout.override layout.defaults

/-- Each field is given at most once. -/
def Once (entries : List ε) : Prop := (entries.map layout.name).Nodup

instance (entries : List ε) : Decidable (layout.Once entries) :=
  inferInstanceAs (Decidable (entries.map layout.name).Nodup)

/-- The texts of an object's member, with the blanks around it. -/
inductive MemberText : Form (Member ε)
  | entry {entry : ε} {before name after ahead value behind : List Char} : Blank before →
      textForm (layout.name entry) name → Blank after → Blank ahead → layout.form entry value →
      Blank behind →
      MemberText (.entry entry) (before ++ (name ++ (after ++ ':' :: (ahead ++ (value ++ behind)))))
  | other {unknown : String} {before name after value : List Char} : Blank before →
      textForm unknown name → unknown ∉ layout.fields.map (·.name) → Blank after →
      Phrase .element value →
      MemberText (.other unknown) (before ++ (name ++ (after ++ ':' :: value)))

/-- The objects that list members. -/
def ObjectText : Form (List (Member ε)) := fun members text =>
  ∃ inner, Listed layout.MemberText members inner ∧ text = '\x7b' :: inner ++ ['\x7d']

/-- The texts of an array's element, with the blanks around it. -/
inductive ElementText : Form ε
  | intro {entry : ε} {before value behind : List Char} : Blank before → layout.form entry value →
      Blank behind → ElementText entry (before ++ (value ++ behind))

/-- The arrays of the values of a record's first fields. -/
def ArrayText : Form (List ε) := fun entries text =>
  entries.map layout.name <+: layout.fields.map (·.name) ∧
    ∃ inner, Listed layout.ElementText entries inner ∧ text = '[' :: inner ++ [']']

/-- The texts of a record. -/
inductive RecordText : Form ρ
  | object {members : List (Member ε)} {text : List Char} : layout.ObjectText members text →
      layout.Once (given members) → RecordText (layout.of (given members)) text
  | array {entries : List ε} {text : List Char} : layout.ArrayText entries text →
      RecordText (layout.of entries) text

/-- What stands in an object before another member. -/
inductive Lead : Form (List (Member ε))
  | start : Lead [] []
  | after {members : List (Member ε)} {text : List Char} : Separated layout.MemberText members text →
      Lead members (text ++ [','])

/-- Texts that start like an object in which a field is given a second time, or in which the value of a
field does so within. -/
inductive Repeats (within : String → List Char → Prop) : List Char → Prop
  | again {members : List (Member ε)} {field : String} {lead before name rest : List Char} :
      layout.Lead members lead → layout.Once (given members) →
      field ∈ (given members).map layout.name → Blank before → textForm field name →
      Repeats within ('\x7b' :: (lead ++ (before ++ (name ++ rest))))
  | inside {members : List (Member ε)} {field : String}
      {lead before name after ahead value : List Char} : layout.Lead members lead →
      layout.Once (given members) → field ∈ layout.fields.map (·.name) →
      field ∉ (given members).map layout.name → Blank before → textForm field name → Blank after →
      Blank ahead → within field value →
      Repeats within ('\x7b' :: (lead ++ (before ++ (name ++ (after ++ ':' :: (ahead ++ value))))))

section Repeating

/-- Whatever follows, a field is given a second time. -/
theorem repeats_append {within : String → List Char → Prop}
    (goesOn : ∀ field value rest, within field value → within field (value ++ rest))
    {text : List Char} (repeats : layout.Repeats within text) (rest : List Char) :
    layout.Repeats within (text ++ rest) := by
  cases repeats with
  | again leads once again isBefore formed =>
    simpa using Repeats.again leads once again isBefore formed
  | @inside _ _ _ _ _ _ _ value leads once isField fresh isBefore formed isAfter isAhead inside =>
    simpa using Repeats.inside leads once isField fresh isBefore formed isAfter isAhead
      (goesOn _ value rest inside)

/-- Up to any of its members, a list of members leads there. -/
theorem exists_lead {members others : List (Member ε)} {member : Member ε} {text : List Char}
    (listed : Separated layout.MemberText (members ++ member :: others) text) :
    ∃ lead piece rest, layout.Lead members lead ∧ layout.MemberText member piece ∧
      text = lead ++ (piece ++ rest) := by
  -- The texts of the members before, each with its comma, are the lead.
  induction members generalizing text with
  | nil =>
    cases listed with
    | one formed => exact ⟨[], text, [], .start, formed, by simp⟩
    | more formed _ => exact ⟨[], _, _, .start, formed, rfl⟩
  | cons first members ih =>
    rw [List.cons_append] at listed
    generalize split : members ++ member :: others = later at listed
    cases listed with
    | one => simp at split
    | @more _ _ piece tail formed listed =>
      subst split
      obtain ⟨lead, again, rest, leads, formedAgain, rfl⟩ := ih listed
      cases leads with
      | start => exact ⟨piece ++ [','], again, rest, .after (.one formed), formedAgain, by simp⟩
      | @after members text before =>
        exact ⟨piece ++ ',' :: text ++ [','], again, rest, .after (.more formed before), formedAgain,
          by simp⟩

/-- Of members that give a field more than once, one is the first to do so. -/
theorem exists_again {members : List (Member ε)} (twice : ¬ layout.Once (given members)) :
    ∃ before entry after, members = before ++ .entry entry :: after ∧ layout.Once (given before) ∧
      layout.name entry ∈ (given before).map layout.name := by
  -- From the end: without the last member, either a field is still given twice or the last one does it.
  induction members using List.reverseRecOn with
  | nil => exact absurd List.nodup_nil twice
  | append_singleton members member ih =>
    by_cases once : layout.Once (given members)
    · cases member with
      | other name => simp_all [given, Once]
      | entry entry =>
        refine ⟨members, entry, [], rfl, once, ?_⟩
        have split : given (members ++ [.entry entry]) = given members ++ [entry] := by
          simp [given, List.filterMap_append]
        rw [split, Once, List.map_append, List.nodup_append] at twice
        by_contra fresh
        refine twice ⟨once, by simp, fun name mem other single same => ?_⟩
        rw [List.map_singleton, List.mem_singleton] at single
        exact fresh (single ▸ same ▸ mem)
    · obtain ⟨before, entry, after, rfl, once, again⟩ := ih once
      exact ⟨before, entry, after ++ [member], by simp, once, again⟩

/-- An object that gives a field more than once starts like one that gives it a second time. -/
theorem objectText_repeats {members : List (Member ε)} {text : List Char}
    (object : layout.ObjectText members text) (twice : ¬ layout.Once (given members))
    (within : String → List Char → Prop) : layout.Repeats within text := by
  obtain ⟨before, entry, after, rfl, once, again⟩ := layout.exists_again twice
  obtain ⟨inner, listed, rfl⟩ := object
  generalize split : before ++ .entry entry :: after = members at listed
  cases listed with
  | empty => simp at split
  | items listed =>
    subst split
    obtain ⟨lead, piece, rest, leads, formed, rfl⟩ := layout.exists_lead listed
    cases formed with
    | entry isBefore named _ _ _ _ =>
      simpa using Repeats.again leads once again isBefore named

end Repeating

section Overriding

/-- An overridden record has the entries given, and its own for the fields that are not given. -/
theorem mem_foldl_override {entries : List ε} (once : layout.Once entries) (record : ρ) (entry : ε) :
    entry ∈ layout.entries (entries.foldl layout.override record) ↔
      entry ∈ entries ∨
        entry ∈ layout.entries record ∧ layout.name entry ∉ entries.map layout.name := by
  -- The first entry is kept, since those that come after it are for other fields.
  induction entries generalizing record with
  | nil => simp
  | cons first entries ih =>
    obtain ⟨fresh, once⟩ := List.nodup_cons.mp once
    rw [List.foldl_cons, ih once, layout.mem_override]
    constructor
    · rintro (later | ⟨rfl | ⟨kept, other⟩, ungiven⟩)
      · exact .inl (.tail _ later)
      · exact .inl List.mem_cons_self
      · exact .inr ⟨kept, by simp_all⟩
    · rintro (given | ⟨kept, ungiven⟩)
      · rcases List.mem_cons.mp given with rfl | later
        · exact .inr ⟨.inl rfl, fresh⟩
        · exact .inl later
      · simp only [List.map_cons, List.mem_cons, not_or] at ungiven
        exact .inr ⟨.inr ⟨kept, ungiven.1⟩, ungiven.2⟩

/-- A record of some entries has these, and the defaults for the fields that are not among them. -/
theorem mem_of {entries : List ε} (once : layout.Once entries) (entry : ε) :
    entry ∈ layout.entries (layout.of entries) ↔ entry ∈ entries ∨
      entry ∈ layout.entries layout.defaults ∧ layout.name entry ∉ entries.map layout.name :=
  layout.mem_foldl_override once layout.defaults entry

/-- The order of what is given does not count. -/
theorem of_perm {entries others : List ε} (once : layout.Once entries) (same : others.Perm entries) :
    layout.of others = layout.of entries := by
  -- Both have the same entries, and no record has another's.
  have alsoOnce : layout.Once others := (same.map layout.name).nodup_iff.mpr once
  refine layout.ext _ _ fun entry => ?_
  rw [layout.mem_of alsoOnce, layout.mem_of once, same.mem_iff, (same.map layout.name).mem_iff]

theorem once_entries (record : ρ) : layout.Once (layout.entries record) := by
  rw [Once, layout.inOrder]
  exact layout.distinct

/-- A record is made of its own entries. -/
theorem of_entries (record : ρ) : layout.of (layout.entries record) = record := by
  -- No default is left, since all fields are given.
  refine layout.ext _ _ fun entry => ?_
  rw [layout.mem_of (layout.once_entries record), layout.inOrder]
  have named := layout.named entry
  tauto

end Overriding

end Layout

end Json

end GuestBoundary
