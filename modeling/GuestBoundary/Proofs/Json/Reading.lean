import GuestBoundary.Proofs.Json.Passing
import GuestBoundary.Settings.Reader

/-! Texts, booleans, numbers and what may be null are read from every text of their forms. -/

namespace GuestBoundary

namespace Json

/-- A reader takes the texts of a form, with blanks before them, up to what delimits them. -/
def Reads {α : Type} (read : Reader α) (form : Form α) : Prop :=
  ∀ ⦃value text blank rest⦄, form value text → Blank blank → Delimited rest →
    read (blank ++ (text ++ rest)) = .ok (value, rest)

section Texts

/-- However a character is written, it is what is read. -/
theorem readString_writes {c : Char} {piece : List Char} (writes : Writes c piece)
    (reversed rest : List Char) :
    readString reversed (piece ++ rest) = readString (c :: reversed) rest := by
  -- The four ways to write a character are those that the reader tells apart.
  cases writes with
  | plain plain =>
    obtain ⟨control, quote, backslash⟩ := plain
    rw [List.cons_append, List.nil_append, readString]
    · exact if_neg (by omega)
    all_goals simp_all
  | @escape letter c escape =>
    obtain ⟨stands, unit⟩ := escaped?_of_mem escape
    rw [List.cons_append, List.cons_append, List.nil_append, readString]
    · rw [stands]
    all_goals simp_all
  | @unit digits unit hex whole =>
    obtain ⟨a, b, c, d, rfl, known⟩ := hex.eq
    have neither : isHighUnit unit = false ∧ isLowUnit unit = false := by
      simp only [isHighUnit, isLowUnit, Bool.and_eq_false_iff, decide_eq_false_iff_not]
      omega
    simp [readString, known, neither]
  | @pair first second high low isFirst isSecond _ _ _ _ =>
    -- The first half alone would be refused, so both are taken at once.
    obtain ⟨a, b, c, d, rfl, highKnown⟩ := isFirst.eq
    obtain ⟨e, f, g, h, rfl, lowKnown⟩ := isSecond.eq
    have both : isHighUnit high = true ∧ isLowUnit low = true := by
      simp only [isHighUnit, isLowUnit, Bool.and_eq_true, decide_eq_true_eq]
      omega
    have point : ofPair high low = 0x10000 + (high - 0xD800) * 0x400 + (low - 0xDC00) := by
      rw [ofPair]
      omega
    simp [readString, highKnown, lowKnown, both, point]

/-- Between its quotes, a string is read as the characters that it stands for. -/
theorem readString_content {chars body : List Char} (content : Content chars body)
    (reversed rest : List Char) :
    readString reversed (body ++ '"' :: rest) =
      .ok (String.ofList (reversed.reverse ++ chars), rest) := by
  induction content generalizing reversed with
  | nil => simp [readString]
  | cons writes _ ih =>
    rw [List.append_assoc, readString_writes writes, ih]
    simp

/-- A string is read after its opening quote. -/
theorem readString_textForm {meaning : String} {text : List Char} (formed : textForm meaning text)
    (rest : List Char) :
    ∃ tail, text ++ rest = '"' :: tail ∧ readString [] tail = .ok (meaning, rest) := by
  obtain ⟨body, content, rfl⟩ := formed
  refine ⟨body ++ '"' :: rest, by simp, ?_⟩
  rw [readString_content content, List.reverse_nil, List.nil_append, String.ofList_toList]

/-- Texts are read from their strings. -/
theorem readText_reads : Reads readText textForm := by
  rintro meaning text blank rest formed isBlank _
  obtain ⟨tail, quoted, read⟩ := readString_textForm formed rest
  rw [readText, skipBlanks_append isBlank, quoted]
  exact read

/-- Booleans are read from their words. -/
theorem readBool_reads : Reads readBool boolForm := by
  rintro value _ blank rest rfl isBlank _
  rw [readBool, skipBlanks_append isBlank]
  cases value <;> rfl

end Texts

section Numbers

/-- Only nothing is written with a leading zero. -/
theorem eq_zero_of_leading_zero {value : Nat} (leading : (Nat.toDigits 10 value).head? = some '0') :
    value = 0 := by
  -- The first digit is that of the number without its last, down to a single one.
  induction value using Nat.strongRecOn with
  | ind value ih =>
    by_cases small : value < 10
    · rw [Nat.toDigits_of_lt_base small] at leading
      have single : ∀ value < 10, value.digitChar = '0' → value = 0 := by decide
      exact single value small (by simpa using leading)
    · obtain ⟨d, digits, tenth⟩ :=
        List.exists_cons_of_ne_nil (Nat.toDigits_ne_nil (b := 10) (n := value / 10))
      rw [Nat.toDigits_of_base_le (by decide) (by omega), tenth] at leading
      have nothing := ih (value / 10) (by omega) (by rw [tenth]; exact leading)
      omega

/-- A natural number is written as a whole part. -/
theorem toDigits_whole (value : Nat) : Whole (Nat.toDigits 10 value) := by
  refine ⟨⟨Nat.toDigits_ne_nil, fun c mem =>
    Nat.isDigit_of_mem_toDigits (by decide) (by decide) mem⟩, fun leading => ?_⟩
  rw [eq_zero_of_leading_zero leading]
  rfl

/-- The digits of a natural number spell it. -/
theorem ofDigits_toDigits (value : Nat) : ofDigits (Nat.toDigits 10 value) = value := by
  have spelled := Nat.ofDigitChars_ten_toDigits (n := value)
  simpa only [Nat.ofDigitChars, ofDigits, Nat.mul_comm] using spelled

/-- Natural numbers of 64 bits are read from their digits. -/
theorem readNumber_digits {value : Nat} (fits : value < UInt64.size) {rest : List Char}
    (delimited : Delimited rest) :
    readNumber (Nat.toDigits 10 value ++ rest) = .ok (some value, rest) := by
  have spelled : readSpelling (Nat.toDigits 10 value ++ rest) =
      .ok (⟨false, Nat.toDigits 10 value, [], none⟩, rest) := by
    simp only [readSpelling_unsigned (toDigits_whole value), readUnsigned,
      readWhole_append (toDigits_whole value) delimited.undigited, bind, Except.bind,
      readFraction_none (delimited.head_ne (by decide)),
      readExponent_none ⟨delimited.head_ne (by decide), delimited.head_ne (by decide)⟩]
    rfl
  have known : Spelling.natural? ⟨false, Nat.toDigits 10 value, [], none⟩ = some value := by
    simp [Spelling.natural?, ofDigits_toDigits, fits]
  simp only [readNumber, spelled, bind, Except.bind, known]
  rfl

/-- Natural numbers below a bound of at most 64 bits are read from their digits. -/
theorem readNatural_digits {bound value : Nat} (small : value < bound) (fits : bound ≤ UInt64.size)
    {blank rest : List Char} (isBlank : Blank blank) (delimited : Delimited rest) :
    readNatural bound (blank ++ (Nat.toDigits 10 value ++ rest)) = .ok (value, rest) := by
  have read := readNumber_digits (Nat.lt_of_lt_of_le small fits) delimited
  -- What starts with a digit is read as a number.
  obtain ⟨d, digits, spelled, digit⟩ := (toDigits_whole value).starts
  rw [spelled, List.cons_append] at read ⊢
  rw [readNatural, skipBlanks_append isBlank, skipBlanks_cons (solid_of_starts (.inr digit))]
  simp only [digit, or_true, if_true, read, bind, Except.bind, small]
  rfl

/-- The digits that stand for a 32-bit word. -/
def word32Form : Form UInt32 := fun word text => naturalForm word.toNat text

/-- The digits that stand for a 64-bit word. -/
def word64Form : Form UInt64 := fun word text => naturalForm word.toNat text

/-- 32-bit words are read from their digits. -/
theorem readWord32_reads : Reads readWord32 word32Form := by
  rintro word _ blank rest rfl isBlank delimited
  rw [readWord32, readNatural_digits word.toNat_lt (by decide) isBlank delimited]
  exact congrArg (fun word => Except.ok (word, rest)) UInt32.ofNat_toNat

/-- 64-bit words are read from their digits. -/
theorem readWord64_reads : Reads readWord64 word64Form := by
  rintro word _ blank rest rfl isBlank delimited
  rw [readWord64, readNatural_digits word.toNat_lt (Nat.le_refl _) isBlank delimited]
  exact congrArg (fun word => Except.ok (word, rest)) UInt64.ofNat_toNat

end Numbers

/-- The texts of a form start neither with a blank nor with a given character. -/
def Apart {α : Type} (mark : Char) (form : Form α) : Prop :=
  ∀ ⦃value text⦄, form value text → ∃ c rest, text = c :: rest ∧ isBlank c = false ∧ c ≠ mark

section Apart

variable {mark : Char}

theorem textForm_apart (other : '"' ≠ mark) : Apart mark textForm := by
  rintro meaning _ ⟨body, _, rfl⟩
  exact ⟨'"', body ++ ['"'], rfl, rfl, other⟩

theorem boolForm_apart (others : 't' ≠ mark ∧ 'f' ≠ mark) : Apart mark boolForm := by
  rintro (_ | _) _ rfl
  · exact ⟨'f', _, rfl, rfl, others.2⟩
  · exact ⟨'t', _, rfl, rfl, others.1⟩

theorem naturalForm_apart (other : mark.isDigit = false) : Apart mark naturalForm := by
  rintro value _ rfl
  obtain ⟨d, digits, spelled, digit⟩ := (toDigits_whole value).starts
  refine ⟨d, digits, spelled, solid_of_starts (.inr digit), ?_⟩
  rintro rfl
  exact absurd digit (by simp [other])

theorem word64Form_apart (other : mark.isDigit = false) : Apart mark word64Form :=
  fun _ _ formed => naturalForm_apart other formed

theorem optionalForm_apart {α : Type} {form : Form α} (apart : Apart mark form) (other : 'n' ≠ mark) :
    Apart mark (optionalForm form) := by
  rintro (_ | value) text formed
  · cases formed
    exact ⟨'n', _, rfl, rfl, other⟩
  · exact apart formed

end Apart

/-- Null is read as absence, and everything else as what it stands for. -/
theorem readOptional_reads {α : Type} {read : Reader α} {form : Form α} (reads : Reads read form)
    (apart : Apart 'n' form) : Reads (readOptional read) (optionalForm form) := by
  rintro (_ | value) text blank rest formed isBlank delimited
  · cases formed
    rw [readOptional, skipBlanks_append isBlank]
    rfl
  · obtain ⟨c, tail, rfl, solid, other⟩ := apart formed
    have whole := @reads _ _ [] _ formed (by simp [Blank]) delimited
    rw [List.nil_append, List.cons_append] at whole
    rw [readOptional, skipBlanks_append isBlank, List.cons_append, skipBlanks_cons solid]
    split
    · rename_i same
      cases same
      exact absurd rfl other
    · rw [whole]
      rfl

/-- What is read for a field of a record is stored there. -/
theorem RecordField.of_reads {ρ α : Type} {read : Reader α} {form : Form α} (reads : Reads read form)
    (name : String) (store : ρ → α → ρ) (record : ρ) (value : α) :
    Reads ((RecordField.of name read store).read record) fun result text =>
      form value text ∧ result = store record value := by
  rintro _ text blank rest ⟨formed, rfl⟩ isBlank delimited
  simp only [RecordField.of, reads formed isBlank delimited, bind, Except.bind]
  rfl

end Json

end GuestBoundary
