import Mathlib.Tactic.SplitIfs
import GuestBoundary.Json.Write
import GuestBoundary.Proofs.Json.Records

/-! What is written has the form of what it was written from. -/

namespace GuestBoundary

namespace Json

/-- A control is a code unit of two hexadecimal digits. -/
theorem hexUnit_control {code : Nat} (control : code < 0x20) :
    HexUnit ['0', '0', Nat.digitChar (code / 16), Nat.digitChar (code % 16)] code := by
  have zero : HexDigit '0' 0 := ⟨by decide, .inl rfl⟩
  have high : HexDigit (Nat.digitChar (code / 16)) (code / 16) := ⟨by omega, .inl rfl⟩
  have low : HexDigit (Nat.digitChar (code % 16)) (code % 16) := ⟨by omega, .inl rfl⟩
  have unit := HexUnit.intro zero zero high low
  have whole : ((0 * 16 + 0) * 16 + code / 16) * 16 + code % 16 = code := by omega
  rwa [whole] at unit

/-- Each character is written as one that may stand for it. -/
theorem escape_writes (c : Char) : Writes c (escape c) := by
  unfold escape
  split_ifs with quote backslash backspace feed line carriage tab control
  · subst quote; exact .escape (by decide)
  · subst backslash; exact .escape (by decide)
  · subst backspace; exact .escape (by decide)
  · subst feed; exact .escape (by decide)
  · subst line; exact .escape (by decide)
  · subst carriage; exact .escape (by decide)
  · subst tab; exact .escape (by decide)
  · have unit := Writes.unit (hexUnit_control control) (by omega)
    rwa [Char.ofNat_toNat] at unit
  · exact .plain ⟨by omega, quote, backslash⟩

/-- A written text stands for itself. -/
theorem textForm_writeText (text : String) : textForm text (writeText text) := by
  refine ⟨text.toList.flatMap escape, ?_, rfl⟩
  induction text.toList with
  | nil => exact .nil
  | cons c chars ih => exact .cons (escape_writes c) ih

theorem optionalForm_writeOptional {α : Type} {form : Form α} {write : α → List Char}
    (written : ∀ value, form value (write value)) (value : Option α) :
    optionalForm form value (writeOptional write value) := by
  cases value with
  | none => rfl
  | some value => exact written value

/-- Items that are written with commas between them are separated. -/
theorem separated_intersperse {ι κ : Type} {form : Form κ} {item : ι → κ} {write : ι → List Char}
    (written : ∀ i, form (item i) (write i)) (first : ι) (others : List ι) :
    Separated form ((first :: others).map item)
      (((first :: others).map write).intersperse [',']).flatten := by
  induction others generalizing first with
  | nil => simpa using Separated.one (written first)
  | cons second others ih => simpa using Separated.more (written first) (ih second)

theorem given_map_entry {ε : Type} (entries : List ε) :
    given (entries.map .entry) = entries := by
  induction entries with
  | nil => rfl
  | cons entry entries ih => exact congrArg (entry :: ·) ih

namespace Layout

variable {ρ ε : Type} (layout : Layout ρ ε)

/-- An object that is written from entries lists them. -/
theorem objectText_writeObject {write : ε → List Char}
    (written : ∀ entry, layout.form entry (write entry)) (entries : List ε) :
    layout.ObjectText (entries.map .entry)
      (writeObject (entries.map fun entry => (layout.name entry, write entry))) := by
  refine ⟨_, ?_, rfl⟩
  have nothing : Blank [] := by simp [Blank]
  have member (entry : ε) : layout.MemberText (.entry entry)
      (writeText (layout.name entry) ++ ':' :: write entry) := by
    simpa using MemberText.entry nothing (textForm_writeText (layout.name entry)) nothing nothing
      (written entry) nothing
  cases entries with
  | nil => exact .empty nothing
  | cons first entries =>
    rw [List.map_map]
    exact .items (separated_intersperse member first entries)

/-- An object that is written from all entries of a record stands for it. -/
theorem recordText_writeObject {write : ε → List Char}
    (written : ∀ entry, layout.form entry (write entry)) (record : ρ) :
    layout.RecordText record
      (writeObject ((layout.entries record).map fun entry => (layout.name entry, write entry))) := by
  have object := RecordText.object (layout.objectText_writeObject written (layout.entries record))
    (by rw [given_map_entry]; exact layout.once_entries record)
  rwa [given_map_entry, layout.of_entries] at object

end Layout

end Json

end GuestBoundary
