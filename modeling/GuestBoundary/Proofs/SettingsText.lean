import GuestBoundary.Proofs.Json.Writing
import GuestBoundary.Settings.Reader
import GuestBoundary.Settings.Writer

/-! Settings come back from the text that they are written as, and a text that gives only some of their
fields leaves the others as they are by default. -/

namespace GuestBoundary

open Json

section Conventions

/-- A field of conventions with its value. -/
inductive Conventions.Entry where
  | space (name : String)
  | memoryExport (name : String)
  | allocExport (name : String)
  | freeExport (name : Option String)
  deriving DecidableEq

namespace Conventions

/-- The name of an entry's field. -/
def Entry.name : Entry → String
  | .space _ => "namespace"
  | .memoryExport _ => "memory_export"
  | .allocExport _ => "alloc_export"
  | .freeExport _ => "free_export"

/-- The texts that stand for the value of an entry. -/
def Entry.form : Form Entry
  | .space name | .memoryExport name | .allocExport name => textForm name
  | .freeExport name => optionalForm textForm name

/-- The value of an entry, written. -/
def Entry.write : Entry → List Char
  | .space name | .memoryExport name | .allocExport name => writeText name
  | .freeExport name => writeOptional writeText name

/-- Conventions with the value of an entry. -/
def override (conventions : Conventions) : Entry → Conventions
  | .space space => { conventions with space }
  | .memoryExport memoryExport => { conventions with memoryExport }
  | .allocExport allocExport => { conventions with allocExport }
  | .freeExport freeExport => { conventions with freeExport }

/-- The entries for all fields. -/
def entries (conventions : Conventions) : List Entry :=
  [.space conventions.space, .memoryExport conventions.memoryExport,
    .allocExport conventions.allocExport, .freeExport conventions.freeExport]

/-- How texts stand for conventions. -/
def layout : Layout Conventions Entry where
  fields := fields
  defaults := .default
  name := Entry.name
  form := Entry.form
  override := override
  entries := entries
  distinct := by decide
  inOrder _ := rfl
  named entry := by cases entry <;> simp [fields, RecordField.of, Entry.name]
  reads entry field mem same record := by
    -- Each field reads the entries that have its name.
    simp only [fields, List.mem_cons, List.not_mem_nil, or_false] at mem
    rcases mem with rfl | rfl | rfl | rfl <;> cases entry <;> simp [RecordField.of, Entry.name] at same
    · exact RecordField.of_reads readText_reads _ _ record _
    · exact RecordField.of_reads readText_reads _ _ record _
    · exact RecordField.of_reads readText_reads _ _ record _
    · exact RecordField.of_reads (readOptional_reads readText_reads (textForm_apart (by decide))) _ _
        record _
  apart := by
    rintro (name | name | name | name) text formed
    · exact textForm_apart (by decide) formed
    · exact textForm_apart (by decide) formed
    · exact textForm_apart (by decide) formed
    · exact optionalForm_apart (textForm_apart (by decide)) (by decide) formed
  mem_override record entry other := by
    cases entry <;> cases other <;> simp [entries, override, Entry.name]
  ext record other same := by
    have all : ∀ entry ∈ record.entries, entry ∈ other.entries := fun entry => (same entry).mp
    cases record
    cases other
    simpa [entries] using all

/-- Every entry is written as it is read. -/
theorem Entry.form_write (entry : Entry) : entry.form entry.write := by
  cases entry with
  | space name => exact textForm_writeText name
  | memoryExport name => exact textForm_writeText name
  | allocExport name => exact textForm_writeText name
  | freeExport name => exact optionalForm_writeOptional textForm_writeText name

/-- Conventions are written as a text that stands for them. -/
theorem write_form (conventions : Conventions) : layout.RecordText conventions conventions.write :=
  layout.recordText_writeObject Entry.form_write conventions

end Conventions

end Conventions

section Settings

/-- A field of settings with its value. -/
inductive Settings.Entry where
  | maxMemoryPages (pages : UInt32)
  | fuelLimit (fuel : Option UInt64)
  | enableGuestLogs (enable : Bool)
  | maxLogLines (lines : UInt64)
  | wasi (enable : Bool)
  | wasiInheritStdio (inherit : Bool)
  | conventions (conventions : Conventions)
  deriving DecidableEq

namespace Settings

/-- The name of an entry's field. -/
def Entry.name : Entry → String
  | .maxMemoryPages _ => "max_memory_pages"
  | .fuelLimit _ => "fuel_limit"
  | .enableGuestLogs _ => "enable_guest_logs"
  | .maxLogLines _ => "max_log_lines"
  | .wasi _ => "wasi"
  | .wasiInheritStdio _ => "wasi_inherit_stdio"
  | .conventions _ => "conventions"

/-- The texts that stand for the value of an entry. -/
def Entry.form : Form Entry
  | .maxMemoryPages pages => word32Form pages
  | .fuelLimit fuel => optionalForm word64Form fuel
  | .maxLogLines lines => word64Form lines
  | .enableGuestLogs value | .wasi value | .wasiInheritStdio value => boolForm value
  | .conventions names => Conventions.layout.RecordText names

/-- The value of an entry, written. -/
def Entry.write : Entry → List Char
  | .maxMemoryPages pages => writeNatural pages.toNat
  | .fuelLimit fuel => writeOptional (fun fuel => writeNatural fuel.toNat) fuel
  | .maxLogLines lines => writeNatural lines.toNat
  | .enableGuestLogs value | .wasi value | .wasiInheritStdio value => writeBool value
  | .conventions names => names.write

/-- Settings with the value of an entry. -/
def override (settings : Settings) : Entry → Settings
  | .maxMemoryPages maxMemoryPages => { settings with maxMemoryPages }
  | .fuelLimit fuelLimit => { settings with fuelLimit }
  | .enableGuestLogs enableGuestLogs => { settings with enableGuestLogs }
  | .maxLogLines maxLogLines => { settings with maxLogLines }
  | .wasi wasi => { settings with wasi }
  | .wasiInheritStdio wasiInheritStdio => { settings with wasiInheritStdio }
  | .conventions conventions => { settings with conventions }

/-- The entries for all fields. -/
def entries (settings : Settings) : List Entry :=
  [.maxMemoryPages settings.maxMemoryPages, .fuelLimit settings.fuelLimit,
    .enableGuestLogs settings.enableGuestLogs, .maxLogLines settings.maxLogLines,
    .wasi settings.wasi, .wasiInheritStdio settings.wasiInheritStdio,
    .conventions settings.conventions]

/-- How texts stand for settings. -/
def layout : Layout Settings Entry where
  fields := fields
  defaults := .default
  name := Entry.name
  form := Entry.form
  override := override
  entries := entries
  distinct := by decide
  inOrder _ := rfl
  named entry := by cases entry <;> simp [fields, RecordField.of, Entry.name]
  reads entry field mem same record := by
    -- Each field reads the entries that have its name.
    simp only [fields, List.mem_cons, List.not_mem_nil, or_false] at mem
    rcases mem with rfl | rfl | rfl | rfl | rfl | rfl | rfl <;> cases entry <;>
      simp [RecordField.of, Entry.name] at same
    · exact RecordField.of_reads readWord32_reads _ _ record _
    · exact RecordField.of_reads
        (readOptional_reads readWord64_reads (word64Form_apart rfl)) _ _ record _
    · exact RecordField.of_reads readBool_reads _ _ record _
    · exact RecordField.of_reads readWord64_reads _ _ record _
    · exact RecordField.of_reads readBool_reads _ _ record _
    · exact RecordField.of_reads readBool_reads _ _ record _
    · exact RecordField.of_reads Conventions.layout.readRecord_reads _ _ record _
  apart := by
    rintro (pages | fuel | value | lines | value | value | conventions) text formed
    · exact naturalForm_apart rfl formed
    · exact optionalForm_apart (word64Form_apart rfl) (by decide) formed
    · exact boolForm_apart (by decide) formed
    · exact naturalForm_apart rfl formed
    · exact boolForm_apart (by decide) formed
    · exact boolForm_apart (by decide) formed
    · exact Conventions.layout.recordText_apart formed
  mem_override record entry other := by
    cases entry <;> cases other <;> simp [entries, override, Entry.name]
  ext record other same := by
    have all : ∀ entry ∈ record.entries, entry ∈ other.entries := fun entry => (same entry).mp
    cases record
    cases other
    simpa [entries] using all

/-- Every entry is written as it is read. -/
theorem Entry.form_write (entry : Entry) : entry.form entry.write := by
  cases entry with
  | maxMemoryPages pages => rfl
  | fuelLimit fuel =>
    have written (fuel : UInt64) : word64Form fuel (writeNatural fuel.toNat) := rfl
    exact optionalForm_writeOptional written fuel
  | enableGuestLogs value => rfl
  | maxLogLines lines => rfl
  | wasi value => rfl
  | wasiInheritStdio value => rfl
  | conventions names => exact names.write_form

end Settings

end Settings

/-- Settings and conventions are read back from the text that they are written as, with whatever names
and with the greatest numbers, also where they differ from the defaults by leaving something out. -/
theorem Settings.ofText_json (settings : Settings) (conventions : Conventions) :
    Settings.ofText settings.json = .ok settings ∧
      Conventions.ofText conventions.json = .ok conventions := by
  have nothing : Blank [] := by simp [Blank]
  have whole := Settings.layout.readAll_recordText
    (Settings.layout.recordText_writeObject Settings.Entry.form_write settings) nothing nothing
  have names := Conventions.layout.readAll_recordText conventions.write_form nothing nothing
  rw [List.nil_append, List.append_nil] at whole names
  exact ⟨whole, names⟩

/-- Texts that start like an object of settings in which a field is given a second time, be it a field
of the settings or of the conventions within. -/
def Settings.Repeats : List Char → Prop :=
  Settings.layout.Repeats fun field value =>
    field = "conventions" ∧ Conventions.layout.Repeats (fun _ _ => False) value

/-- Whatever follows, a field is given a second time. -/
theorem Settings.Repeats.append {text : List Char} (repeats : Settings.Repeats text)
    (rest : List Char) : Settings.Repeats (text ++ rest) := by
  refine Settings.layout.repeats_append ?_ repeats rest
  rintro field value rest ⟨named, again⟩
  exact ⟨named, Conventions.layout.repeats_append (fun _ _ _ => id) again rest⟩

/-- A field of settings that is given a second time is an error, whatever follows. -/
theorem Settings.ofText_repeats {text before : List Char} (repeats : Settings.Repeats text)
    (isBefore : Blank before) :
    Settings.ofText (String.ofList (before ++ text)) = .error .wrongType := by
  have read : readRecord fields .default (before ++ text) = .error .wrongType := by
    refine Settings.layout.readRecord_repeats ?_ repeats isBefore
    rintro _ value ⟨rfl, again⟩ field mem same record blank isBlank
    -- The only field of that name reads conventions.
    have inner := Conventions.layout.readRecord_repeats (by simp) again isBlank
    simp only [layout, fields, List.mem_cons, List.not_mem_nil, or_false] at mem
    rcases mem with rfl | rfl | rfl | rfl | rfl | rfl | rfl <;> simp [RecordField.of] at same
    simp only [RecordField.of, bind, Except.bind, Conventions.read]
    rw [show readRecord Conventions.fields .default (blank ++ value) = _ from inner]
  simp only [ofText, readAll, String.toList_ofList, Settings.read, read, bind, Except.bind]

/-- The name of the deallocator is none where null is given for it, and the default where nothing is. -/
theorem Conventions.freeExport_of {entries : List Conventions.Entry}
    (once : Conventions.layout.Once entries) :
    (.freeExport none ∈ entries → (Conventions.layout.of entries).freeExport = none) ∧
      ((∀ name, .freeExport name ∉ entries) →
        (Conventions.layout.of entries).freeExport = some "free") := by
  have exact (name : Option String)
      (mem : .freeExport name ∈ entries ∨ .freeExport name ∈ Conventions.default.entries ∧
        "free_export" ∉ entries.map Entry.name) :
      (Conventions.layout.of entries).freeExport = name := by
    have mem := (Conventions.layout.mem_of once (.freeExport name)).mpr mem
    simpa [layout, Conventions.entries, eq_comm] using mem
  refine ⟨fun null => exact none (.inl null), fun absent => exact _ (.inr ⟨by decide, ?_⟩)⟩
  intro mem
  obtain ⟨entry, mem, named⟩ := List.mem_map.mp mem
  cases entry with
  | freeExport name => exact absent name mem
  | _ => simp [Entry.name] at named

/-- There is no limit of fuel where null is given for it. -/
theorem Settings.fuelLimit_of {entries : List Settings.Entry} (once : Settings.layout.Once entries)
    (null : .fuelLimit none ∈ entries) : (Settings.layout.of entries).fuelLimit = none := by
  have mem := (Settings.layout.mem_of once (.fuelLimit none)).mpr (.inl null)
  simpa [layout, Settings.entries, eq_comm] using mem

/-- An object of some settings, among whatever other members, is read as the defaults with exactly the
given fields overridden. Neither the order of the fields counts, nor what other members there are, nor
whether the fields stand in an array instead. Conventions within are completed in the same way, null
stands for nothing where a field may be left empty, and no field may be given a second time. -/
theorem Settings.ofText_partial {members : List (Member Settings.Entry)}
    {text before after : List Char} (object : Settings.layout.ObjectText members text)
    (once : Settings.layout.Once (given members)) (isBefore : Blank before) (isAfter : Blank after) :
    let settings := Settings.layout.of (given members)
    let read (text : List Char) := Settings.ofText (String.ofList (before ++ (text ++ after)))
    read text = .ok settings ∧
      (∀ entry, entry ∈ settings.entries ↔ entry ∈ given members ∨
        entry ∈ Settings.default.entries ∧ entry.name ∉ (given members).map Entry.name) ∧
      -- The same fields in another order, among other members or none, and in an array.
      (∀ others other, Settings.layout.ObjectText others other →
        (given others).Perm (given members) → read other = .ok settings) ∧
      (∀ entries array, Settings.layout.ArrayText entries array →
        entries.Perm (given members) → read array = .ok settings) ∧
      -- An object of some conventions stands for the conventions that it completes.
      (∀ inner, Conventions.layout.Once (given inner) →
        let conventions := Conventions.layout.of (given inner)
        (∀ value, Conventions.layout.ObjectText inner value →
          (Entry.conventions conventions).form value) ∧
        (∀ entry, entry ∈ conventions.entries ↔ entry ∈ given inner ∨
          entry ∈ Conventions.default.entries ∧
            entry.name ∉ (given inner).map Conventions.Entry.name) ∧
        (∀ others, (given others).Perm (given inner) →
          Conventions.layout.of (given others) = conventions) ∧
        (.freeExport none ∈ given inner → conventions.freeExport = none) ∧
        ((∀ name, .freeExport name ∉ given inner) → conventions.freeExport = some "free")) ∧
      (.fuelLimit none ∈ given members → settings.fuelLimit = none) ∧
      -- A field given twice, whatever follows the second time, be it one of the conventions within.
      (∀ others other, Settings.layout.ObjectText others other →
        ¬ Settings.layout.Once (given others) → read other = .error .wrongType) ∧
      (∀ start, Settings.Repeats start → read start = .error .wrongType) := by
  intro settings read
  -- Whatever text lists the same entries stands for the same settings.
  have gives {entries : List Settings.Entry} {text : List Char}
      (formed : Settings.layout.RecordText (Settings.layout.of entries) text)
      (same : entries.Perm (given members)) : read text = .ok settings := by
    rw [show settings = Settings.layout.of entries from (Settings.layout.of_perm once same).symm]
    exact Settings.layout.readAll_recordText formed isBefore isAfter
  have reordered (others : List (Member Settings.Entry)) (other : List Char)
      (formed : Settings.layout.ObjectText others other)
      (same : (given others).Perm (given members)) : read other = .ok settings :=
    gives (.object formed ((same.map Entry.name).nodup_iff.mpr once)) same
  have rejects (start : List Char) (repeats : Settings.Repeats start) :
      read start = .error .wrongType := Settings.ofText_repeats (repeats.append after) isBefore
  refine ⟨reordered members text object (.refl _), Settings.layout.mem_of once, reordered,
    fun entries array formed same => gives (.array formed) same, fun inner onceInside => ?_,
    Settings.fuelLimit_of once, fun others other formed twice => ?_, rejects⟩
  · exact ⟨fun value formed => .object formed onceInside, Conventions.layout.mem_of onceInside,
      fun others same => Conventions.layout.of_perm onceInside same,
      Conventions.freeExport_of onceInside⟩
  · exact rejects other (Settings.layout.objectText_repeats formed twice _)

/-- Among another member, whose value is nested, the fuel is left unlimited and the deallocator is taken
away. -/
theorem Settings.ofText_partial_sample :
    Settings.ofText ("\x7b \"note\": [1, \x7b\x7d], \"conventions\": \x7b \"free_export\": null\x7d," ++
      " \"fuel_limit\": null\x7d") =
      .ok { Settings.default with conventions := ⟨"env", "memory", "malloc", none⟩ } := by
  have nothing : Blank [] := by simp [Blank]
  have space : Blank [' '] := by simp [Blank]
  have one := @Number.intro [] _ [] [] (.head _) (toDigits_whole 1) (.inl rfl) (.inl rfl)
  have nested := Phrase.element space (.list (.moreElements (.element nothing (.number one) nothing)
    (.oneElement (.element space (.emptyRecord nothing) nothing)))) nothing
  have note : Settings.layout.MemberText (.other "note")
      ([' '] ++ (writeText "note" ++ ([] ++ ':' :: _))) :=
    .other space (textForm_writeText "note") (by decide) nothing nested
  have member {ρ ε : Type} (layout : Layout ρ ε) {entry : ε} {value : List Char}
      (formed : layout.form entry value) : layout.MemberText (.entry entry)
        ([' '] ++ (writeText (layout.name entry) ++ ([] ++ ':' :: ([' '] ++ (value ++ []))))) :=
    .entry space (textForm_writeText (layout.name entry)) nothing space formed nothing
  have inner : Conventions.layout.ObjectText [.entry (.freeExport none)] _ :=
    ⟨_, .items (.one (member Conventions.layout rfl)), rfl⟩
  have names : Settings.layout.form (.conventions (Conventions.layout.of [.freeExport none])) _ :=
    Layout.RecordText.object inner (by decide)
  have limit : Settings.layout.form (.fuelLimit none) "null".toList := rfl
  exact (Settings.ofText_partial ⟨_, .items (.more note (.more (member Settings.layout names)
    (.one (member Settings.layout limit)))), rfl⟩ (by decide) nothing nothing).1

end GuestBoundary
