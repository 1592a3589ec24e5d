import GuestBoundary.Proofs.Words
import GuestBoundary.Results
import Mathlib.Logic.ExistsUnique

/-! The two forms of a returned span are one format: a result list carries a span in at most one of them,
and every reader finds the span that would be written as that list. -/

namespace GuestBoundary

/-- The types of the result lists of a form. -/
def ResultForm.types : ResultForm → List NumType
  | .packed => [.i64]
  | .pair => [.i32, .i32]

/-- A result list has the number and the types of values of a form. -/
def ResultForm.Shapes (form : ResultForm) (values : List Value) : Prop :=
  values.map Value.type = form.types

namespace Span

/-- A word shifted down by 32 bits is the upper half of its number, zero-extended. -/
theorem toNat_ofPacked_pointer (word : UInt64) :
    (ofPacked word).pointer.toNat = word.toNat / UInt32.size := by
  have bound := word.toNat_lt
  have shifted : (word >>> 32).toNat = word.toNat / UInt32.size := by
    rw [UInt64.toNat_shiftRight]
    exact Nat.shiftRight_eq_div_pow word.toNat 32
  rw [ofPacked, UInt64.toNat_toUInt32, shifted, UInt32.size]
  omega

/-- A word cut off at 32 bits is the lower half of its number, zero-extended. -/
theorem toNat_ofPacked_length (word : UInt64) :
    (ofPacked word).length.toNat = word.toNat % UInt32.size :=
  UInt64.toNat_toUInt32 word

/-- A result list has the shape of a form exactly if it carries some span in that form. -/
theorem shapes_iff {form : ResultForm} {values : List Value} :
    form.Shapes values ↔ ∃ span : Span, values = span.results form := by
  constructor
  · -- The types tell how many values there are, and of which width each of them is.
    intro shaped
    match form, values, shaped with
    | .packed, [.i64 word], _ => exact ⟨ofPacked word, by rw [results, packed_ofPacked]⟩
    | .pair, [.i32 pointer, .i32 length], _ => exact ⟨⟨pointer, length⟩, rfl⟩
  · rintro ⟨span, rfl⟩
    cases form <;> rfl

/-- No result list has the shapes of both forms. -/
theorem shapes_unique {first second : ResultForm} {values : List Value}
    (one : first.Shapes values) (other : second.Shapes values) : first = second := by
  have same : first.types = second.types := one.symm.trans other
  cases first <;> cases second <;> first | rfl | cases same

/-- A span is found in a result list exactly if the list is the span written in one of the forms. -/
theorem ofResults?_eq_some_iff {values : List Value} {span : Span} :
    ofResults? values = some span ↔ ∃ form, values = span.results form := by
  constructor
  · intro read
    unfold ofResults? at read
    split at read
    · cases read
      exact ⟨.packed, by rw [results, packed_ofPacked]⟩
    · cases read
      exact ⟨.pair, rfl⟩
    · cases read
  · rintro ⟨form, rfl⟩
    cases form with
    | packed => exact congrArg some span.ofPacked_packed
    | pair => rfl

end Span

variable {form : ResultForm} {values : List Value} {span : Span}

/-- A result list is read as the span that is written as that list, in whichever form. -/
theorem readSpan_ok_iff : readSpan values = .ok span ↔ ∃ form, values = span.results form := by
  rw [← Span.ofResults?_eq_some_iff, readSpan]
  cases Span.ofResults? values <;> simp

/-- In one form, a result list is read as the span that is written as that list in this form. -/
theorem ResultForm.readSpan_ok_iff : form.readSpan values = .ok span ↔ values = span.results form := by
  rw [← Span.ofForm?_eq_some_iff, readSpan]
  cases Span.ofForm? form values <;> simp

/-- A result list of another shape is malformed in a form. -/
theorem ResultForm.readSpan_shapeless (shapeless : ¬ form.Shapes values) :
    form.readSpan values = .error (.malformedResult (.wrongForm form values)) := by
  -- Were a span found, the list would have the shape.
  cases found : Span.ofForm? form values with
  | none => rw [readSpan, found]
  | some span =>
    exact absurd (Span.shapes_iff.mpr ⟨span, Span.ofForm?_eq_some_iff.mp found⟩) shapeless

/-- A result list of neither shape is malformed. -/
theorem readSpan_shapeless (shapeless : ∀ form : ResultForm, ¬ form.Shapes values) :
    readSpan values = .error (.malformedResult (.noSpan values)) := by
  cases found : Span.ofResults? values with
  | none => rw [readSpan, found]
  | some span =>
    obtain ⟨form, written⟩ := Span.ofResults?_eq_some_iff.mp found
    exact absurd (Span.shapes_iff.mpr ⟨span, written⟩) (shapeless form)

/-- A result list is read in one form exactly if it has its shape and is read at all, with the same span. -/
theorem ResultForm.readSpan_iff_shapes :
    form.readSpan values = .ok span ↔ GuestBoundary.readSpan values = .ok span ∧ form.Shapes values := by
  rw [readSpan_ok_iff, GuestBoundary.readSpan_ok_iff]
  constructor
  · intro written
    exact ⟨⟨form, written⟩, Span.shapes_iff.mpr ⟨span, written⟩⟩
  · -- The form that the span was found in is the one whose shape the list has.
    rintro ⟨⟨other, written⟩, shaped⟩
    exact Span.shapes_unique (Span.shapes_iff.mpr ⟨span, written⟩) shaped ▸ written

/-- A result list is read at all exactly if it is one long or two short words. -/
theorem exists_readSpan_ok_iff :
    (∃ span, readSpan values = .ok span) ↔
      (∃ word, values = [.i64 word]) ∨ ∃ pointer length, values = [.i32 pointer, .i32 length] := by
  constructor
  · rintro ⟨span, read⟩
    obtain ⟨form, rfl⟩ := readSpan_ok_iff.mp read
    cases form with
    | packed => exact .inl ⟨_, rfl⟩
    | pair => exact .inr ⟨_, _, rfl⟩
  · rintro (⟨word, rfl⟩ | ⟨pointer, length, rfl⟩) <;> exact ⟨_, rfl⟩

/-- A result list that is read at all is read in exactly one form. -/
theorem existsUnique_form (read : readSpan values = .ok span) :
    ∃! form : ResultForm, form.readSpan values = .ok span := by
  obtain ⟨form, written⟩ := readSpan_ok_iff.mp read
  refine ⟨form, ResultForm.readSpan_ok_iff.mpr written, fun other found => ?_⟩
  exact Span.shapes_unique (ResultForm.readSpan_iff_shapes.mp found).2
    (Span.shapes_iff.mpr ⟨span, written⟩)

/--
The two forms of a returned span are one format.

Spans and 64-bit words correspond one to one, the pointer being the upper and the length the lower half of
the number of the word, so nothing is sign-extended; a buffer keeps its owner besides. One word and the two
words of the same span are read alike. A result list is read at all exactly if it is one long word or two
short ones, and then it is the span that was read, written in the form whose shape the list has. It is read
in a form exactly if it is read at all and has the shape of that form, with the same span; so there is
exactly one such form. A list that does not have the shape of a form is malformed in that form, and one
that is not read at all is malformed in any form and in each.
-/
theorem Span.forms_agree :
    (∀ span : Span, ofPacked span.packed = span ∧
      span.packed.toNat = span.pointer.toNat * UInt32.size + span.length.toNat) ∧
    (∀ word, (ofPacked word).packed = word ∧
      (ofPacked word).pointer.toNat = word.toNat / UInt32.size ∧
      (ofPacked word).length.toNat = word.toNat % UInt32.size ∧
      readSpan [.i64 word] = readSpan (ofPacked word).pair) ∧
    (∀ values,
      ((∃ span, readSpan values = .ok span) ↔
        (∃ word, values = [.i64 word]) ∨ ∃ pointer length, values = [.i32 pointer, .i32 length]) ∧
      (∀ span, readSpan values = .ok span →
        (∃! form : ResultForm, form.readSpan values = .ok span) ∧
        ∀ form : ResultForm, form.Shapes values → values = span.results form) ∧
      ((∀ span, readSpan values ≠ .ok span) →
        readSpan values = .error (.malformedResult (.noSpan values)) ∧
        ∀ form : ResultForm, form.readSpan values = .error (.malformedResult (.wrongForm form values)))) ∧
    (∀ (form : ResultForm) values,
      (∀ span, form.readSpan values = .ok span ↔ readSpan values = .ok span ∧ form.Shapes values) ∧
      (¬ form.Shapes values →
        form.readSpan values = .error (.malformedResult (.wrongForm form values)))) ∧
    (∀ buffer : Buffer, Buffer.ofPacked buffer.packed buffer.owner = buffer) ∧
    ∀ word owner, (Buffer.ofPacked word owner).packed = word ∧
      (Buffer.ofPacked word owner).owner = owner := by
  refine ⟨fun span => ⟨span.ofPacked_packed, span.toNat_packed⟩, fun word => ⟨packed_ofPacked word,
    toNat_ofPacked_pointer word, toNat_ofPacked_length word, rfl⟩, fun values => ⟨exists_readSpan_ok_iff,
    fun span read => ⟨existsUnique_form read, fun form shaped => ?_⟩, fun unread => ?_⟩, fun form values =>
    ⟨fun span => ResultForm.readSpan_iff_shapes, ResultForm.readSpan_shapeless⟩, fun buffer => ?_,
    fun word owner => ⟨packed_ofPacked word, rfl⟩⟩
  · exact ResultForm.readSpan_ok_iff.mp (ResultForm.readSpan_iff_shapes.mpr ⟨read, shaped⟩)
  · -- A list of either shape is some span in that form, and would be read as that.
    have shapeless (form : ResultForm) : ¬ form.Shapes values := by
      intro shaped
      obtain ⟨span, written⟩ := shapes_iff.mp shaped
      exact unread span (readSpan_ok_iff.mpr ⟨form, written⟩)
    exact ⟨readSpan_shapeless shapeless, fun form => ResultForm.readSpan_shapeless (shapeless form)⟩
  · rw [Buffer.ofPacked, Buffer.packed, ofPacked_packed]

/-- A word of all ones is the largest pointer with the largest length, which two words carry as well. Two
long words have neither shape. -/
theorem Span.forms_agree_largest :
    let values := [.i64 0xFFFFFFFFFFFFFFFF]
    readSpan values = .ok ⟨0xFFFFFFFF, 0xFFFFFFFF⟩ ∧
      (∃! form : ResultForm, form.readSpan values = .ok ⟨0xFFFFFFFF, 0xFFFFFFFF⟩) ∧
      values = Span.results ⟨0xFFFFFFFF, 0xFFFFFFFF⟩ .packed ∧
      ResultForm.readSpan .pair values = .error (.malformedResult (.wrongForm .pair values)) ∧
      readSpan [.i64 1, .i64 2] = .error (.malformedResult (.noSpan [.i64 1, .i64 2])) := by
  intro values
  have read : readSpan values = .ok ⟨0xFFFFFFFF, 0xFFFFFFFF⟩ := rfl
  obtain ⟨-, -, lists, forms, -⟩ := Span.forms_agree
  obtain ⟨unique, written⟩ := (lists values).2.1 _ read
  exact ⟨read, unique, written .packed rfl, (forms .pair values).2 (by simp [ResultForm.Shapes, values,
    ResultForm.types]), ((lists [.i64 1, .i64 2]).2.2 nofun).1⟩

end GuestBoundary
