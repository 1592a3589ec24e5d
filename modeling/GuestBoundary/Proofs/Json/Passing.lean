import GuestBoundary.Json.Skip
import GuestBoundary.Proofs.Json.Grammar

/-! Every value of the grammar is passed over up to its end, whatever it holds and however deep. -/

namespace GuestBoundary

namespace Json

/-- Blanks are skipped before whatever comes next. -/
theorem skipBlanks_append {blank : List Char} (isBlank : Blank blank) (rest : List Char) :
    skipBlanks (blank ++ rest) = skipBlanks rest := by
  induction blank with
  | nil => rfl
  | cons c blank ih =>
    obtain ⟨first, others⟩ := List.forall_mem_cons.mp isBlank
    have skipped : Json.isBlank c = true := by
      simp only [List.mem_cons, List.not_mem_nil, or_false] at first
      rcases first with rfl | rfl | rfl | rfl <;> rfl
    rw [List.cons_append, skipBlanks, List.dropWhile_cons_of_pos skipped]
    exact ih others

/-- What is not a blank is not skipped. -/
theorem skipBlanks_cons {c : Char} (solid : isBlank c = false) (rest : List Char) :
    skipBlanks (c :: rest) = c :: rest :=
  List.dropWhile_cons_of_neg (by simp [solid])

section Strings

/-- A hexadecimal digit has its value in either case. -/
theorem HexDigit.eq {digit : Char} {value : Nat} (hex : HexDigit digit value) :
    hexDigit? digit = some value := by
  -- There are sixteen values, of which each has two digits.
  obtain ⟨small, same⟩ := hex
  have all : ∀ value < 16, hexDigit? value.digitChar = some value ∧
      hexDigit? value.digitChar.toUpper = some value := by decide
  rcases same with rfl | rfl
  · exact (all value small).1
  · exact (all value small).2

/-- A code unit stands in four digits. -/
theorem HexUnit.eq {digits : List Char} {unit : Nat} (hex : HexUnit digits unit) :
    ∃ a b c d, digits = [a, b, c, d] ∧ hexUnit? a b c d = some unit := by
  cases hex with
  | intro first second third fourth =>
    refine ⟨_, _, _, _, rfl, ?_⟩
    simp [hexUnit?, first.eq, second.eq, third.eq, fourth.eq]

/-- The letter of an escape stands for its character, and never for a code unit. -/
theorem escaped?_of_mem {letter c : Char} (escape : (letter, c) ∈ escapes) :
    escaped? letter = some c ∧ letter ≠ 'u' := by
  simp only [escapes, List.mem_cons, List.not_mem_nil, or_false, Prod.mk.injEq] at escape
  rcases escape with ⟨rfl, rfl⟩ | ⟨rfl, rfl⟩ | ⟨rfl, rfl⟩ | ⟨rfl, rfl⟩ | ⟨rfl, rfl⟩ | ⟨rfl, rfl⟩ |
    ⟨rfl, rfl⟩ | ⟨rfl, rfl⟩
  all_goals exact ⟨rfl, by decide⟩

/-- A string is passed over up to its closing quote. -/
theorem skipString_unread {body : List Char} (unread : Unread body) (rest : List Char) :
    skipString (body ++ '"' :: rest) = .ok rest := by
  -- Piece by piece: a character, an escape, or a code unit of whatever kind.
  induction unread with
  | nil => rfl
  | @plain c body plain _ ih =>
    obtain ⟨control, quote, backslash⟩ := plain
    rw [List.cons_append, skipString]
    · rw [if_neg (by omega)]
      exact ih
    all_goals simp_all
  | @escape letter c body escape _ ih =>
    obtain ⟨stands, unit⟩ := escaped?_of_mem escape
    rw [List.cons_append, List.cons_append, skipString]
    · rw [stands]
      exact ih
    all_goals simp_all
  | unit hex _ ih =>
    obtain ⟨a, b, c, d, rfl, known⟩ := hex.eq
    simp only [List.cons_append, List.nil_append, skipString, known]
    exact ih

end Strings

section Numbers

/-- No digit comes first. -/
def Undigited (text : List Char) : Prop := ∀ c ∈ text.head?, c.isDigit = false

/-- What is no delimiter does not come first. -/
theorem Delimited.head_ne {rest : List Char} (delimited : Delimited rest) {c : Char}
    (other : c ∉ [' ', '\t', '\n', '\r', ',', ']', '\x7d']) : rest.head? ≠ some c :=
  fun first => other (delimited c first)

theorem Delimited.undigited {rest : List Char} (delimited : Delimited rest) : Undigited rest := by
  intro c first
  have delimiter := delimited c first
  simp only [List.mem_cons, List.not_mem_nil, or_false] at delimiter
  rcases delimiter with rfl | rfl | rfl | rfl | rfl | rfl | rfl <;> rfl

/-- Digits are taken up to the first character that is none. -/
theorem readDigits_append {digits : List Char} (isDigits : Digits digits) {rest : List Char}
    (ends : Undigited rest) : readDigits (digits ++ rest) = .ok (digits, rest) := by
  obtain ⟨nonempty, each⟩ := isDigits
  have stops : rest.takeWhile Char.isDigit = [] ∧ rest.dropWhile Char.isDigit = rest := by
    cases rest with
    | nil => exact ⟨rfl, rfl⟩
    | cons c rest =>
      have other : c.isDigit = false := ends c rfl
      simp [other]
  have taken : takeDigits (digits ++ rest) = (digits, rest) := by
    rw [takeDigits, List.takeWhile_append_of_pos each, List.dropWhile_append_of_pos each, stops.1,
      stops.2, List.append_nil]
  rw [readDigits, taken]
  cases digits with
  | nil => exact absurd rfl nonempty
  | cons c digits => rfl

/-- A whole part starts with a digit. -/
theorem Whole.starts {whole : List Char} (isWhole : Whole whole) :
    ∃ d digits, whole = d :: digits ∧ d.isDigit = true := by
  obtain ⟨⟨nonempty, each⟩, _⟩ := isWhole
  cases whole with
  | nil => exact absurd rfl nonempty
  | cons d digits => exact ⟨d, digits, rfl, each d List.mem_cons_self⟩

/-- A whole part is read up to the first character that is no digit. -/
theorem readWhole_append {whole : List Char} (isWhole : Whole whole) {rest : List Char}
    (ends : Undigited rest) : readWhole (whole ++ rest) = .ok (whole, rest) := by
  obtain ⟨digits, leading⟩ := isWhole
  rw [readWhole, readDigits_append digits ends]
  simp only [bind, Except.bind]
  split
  · -- A digit after a leading zero would not be whole.
    cases leading rfl
  · rfl

/-- A number without a point has no fraction. -/
theorem readFraction_none {rest : List Char} (pointless : rest.head? ≠ some '.') :
    readFraction rest = .ok ([], rest) := by
  rw [readFraction]
  rintro rest rfl
  exact pointless rfl

/-- A number without a mark has no exponent. -/
theorem readExponent_none {rest : List Char}
    (unmarked : rest.head? ≠ some 'e' ∧ rest.head? ≠ some 'E') :
    readExponent rest = .ok (none, rest) := by
  cases rest with
  | nil => rfl
  | cons c rest =>
    have other : ¬ (c = 'e' ∨ c = 'E') := by simpa using unmarked
    simp only [readExponent.eq_def, if_neg other]

/-- A fraction is read up to the first character that is no digit. -/
theorem readFraction_append {fraction : List Char}
    (isFraction : fraction = [] ∨ ∃ digits, Digits digits ∧ fraction = '.' :: digits)
    {rest : List Char} (ends : Undigited rest) (pointless : rest.head? ≠ some '.') :
    ∃ digits, readFraction (fraction ++ rest) = .ok (digits, rest) := by
  rcases isFraction with rfl | ⟨digits, isDigits, rfl⟩
  · exact ⟨[], readFraction_none pointless⟩
  · exact ⟨digits, readDigits_append isDigits ends⟩

/-- An exponent is read up to the first character that is no digit. -/
theorem readExponent_append {exponent : List Char}
    (isExponent : exponent = [] ∨ ∃ mark ∈ ['e', 'E'], ∃ sign ∈ [[], ['+'], ['-']], ∃ digits,
      Digits digits ∧ exponent = mark :: sign ++ digits)
    {rest : List Char} (ends : Undigited rest)
    (unmarked : rest.head? ≠ some 'e' ∧ rest.head? ≠ some 'E') :
    ∃ spelled, readExponent (exponent ++ rest) = .ok (spelled, rest) := by
  rcases isExponent with rfl | ⟨mark, marked, sign, signed, digits, isDigits, rfl⟩
  · exact ⟨none, readExponent_none unmarked⟩
  · have isMark : mark = 'e' ∨ mark = 'E' := by simpa using marked
    have read := readDigits_append isDigits ends
    simp only [List.mem_cons, List.not_mem_nil, or_false] at signed
    rcases signed with rfl | rfl | rfl
    · -- Without a sign, the first of the digits is not taken for one.
      refine ⟨some (false, digits), ?_⟩
      obtain ⟨nonempty, each⟩ := isDigits
      cases digits with
      | nil => exact absurd rfl nonempty
      | cons d digits =>
        have digit : d.isDigit = true := each d List.mem_cons_self
        simp only [List.cons_append, List.nil_append] at read ⊢
        rw [readExponent, if_pos isMark, read]
        · rfl
        all_goals rintro _ ⟨⟩; cases digit
    · refine ⟨some (false, digits), ?_⟩
      simp only [List.cons_append, List.nil_append, readExponent, if_pos isMark, read]
      rfl
    · refine ⟨some (true, digits), ?_⟩
      simp only [List.cons_append, List.nil_append, readExponent, if_pos isMark, read]
      rfl

/-- Read the spelling of a number whose sign has been taken. -/
def readUnsigned (negative : Bool) (text : List Char) :
    Except ReadError (Spelling × List Char) := do
  let (whole, text) ← readWhole text
  let (fraction, text) ← readFraction text
  let (exponent, text) ← readExponent text
  return (⟨negative, whole, fraction, exponent⟩, text)

theorem readSpelling_signed (text : List Char) :
    readSpelling ('-' :: text) = readUnsigned true text := rfl

theorem readSpelling_unsigned {whole : List Char} (isWhole : Whole whole) (rest : List Char) :
    readSpelling (whole ++ rest) = readUnsigned false (whole ++ rest) := by
  -- Only a sign in front is taken off, and a whole part starts with a digit.
  obtain ⟨d, digits, rfl, digit⟩ := isWhole.starts
  unfold readSpelling
  split
  rename_i negative rest taken
  split at taken
  · rename_i same
    cases same
    cases digit
  · cases taken
    rfl

/-- A number is passed over up to what delimits it. -/
theorem skipNumber_append {text : List Char} (number : Number text) {rest : List Char}
    (delimited : Delimited rest) : skipNumber (text ++ rest) = .ok rest := by
  obtain ⟨signed, isWhole, isFraction, isExponent⟩ := number
  rename_i sign whole fraction exponent
  -- Neither a fraction nor an exponent starts like what comes before it goes on.
  have afterFraction : Undigited (exponent ++ rest) ∧ (exponent ++ rest).head? ≠ some '.' := by
    rcases isExponent with rfl | ⟨mark, marked, _, _, _, _, rfl⟩
    · exact ⟨delimited.undigited, delimited.head_ne (by decide)⟩
    · have isMark : mark = 'e' ∨ mark = 'E' := by simpa using marked
      rcases isMark with rfl | rfl <;> simp [Undigited]
  have afterWhole : Undigited (fraction ++ (exponent ++ rest)) := by
    rcases isFraction with rfl | ⟨_, _, rfl⟩
    · exact afterFraction.1
    · simp [Undigited]
  obtain ⟨inFraction, fractionRead⟩ := readFraction_append isFraction afterFraction.1 afterFraction.2
  obtain ⟨inExponent, exponentRead⟩ := readExponent_append isExponent delimited.undigited
    ⟨delimited.head_ne (by decide), delimited.head_ne (by decide)⟩
  have unsigned (negative : Bool) :
      readUnsigned negative (whole ++ (fraction ++ (exponent ++ rest))) =
        .ok (⟨negative, whole, inFraction, inExponent⟩, rest) := by
    simp only [readUnsigned, readWhole_append isWhole afterWhole, bind, Except.bind, fractionRead,
      exponentRead]
    rfl
  simp only [List.mem_cons, List.not_mem_nil, or_false] at signed
  simp only [List.append_assoc]
  rcases signed with rfl | rfl
  · rw [List.nil_append, skipNumber, readSpelling_unsigned isWhole, unsigned]
  · rw [List.cons_append, List.nil_append, skipNumber, readSpelling_signed, unsigned]

end Numbers

section Tokens

/-- A value may come next: where one must, or as the first element of a list. -/
inductive Expects : Next → List Open → Prop
  | value {brackets : List Open} : Expects .value brackets
  | first {outer : List Open} : Expects .member (.list :: outer)

variable {next : Next} {brackets : List Open}

/-- Blanks before a token do not count. -/
theorem skipToken_blank {blank : List Char} (isBlank : Blank blank) (brackets : List Open) (next : Next)
    (rest : List Char) :
    skipToken brackets next (blank ++ rest) = skipToken brackets next rest := by
  unfold skipToken
  rw [skipBlanks_append isBlank]

theorem skipToken_null (expects : Expects next brackets) (rest : List Char) :
    skipToken brackets next ("null".toList ++ rest) = .ok (brackets, afterValue brackets, rest) := by
  cases expects <;> rfl

theorem skipToken_bool (expects : Expects next brackets) (value : Bool) (rest : List Char) :
    skipToken brackets next ((if value then "true" else "false").toList ++ rest) =
      .ok (brackets, afterValue brackets, rest) := by
  cases expects <;> cases value <;> rfl

theorem skipToken_string (expects : Expects next brackets) {body : List Char} (unread : Unread body)
    (rest : List Char) :
    skipToken brackets next ('"' :: body ++ '"' :: rest) =
      .ok (brackets, afterValue brackets, rest) := by
  have passed : skipToken brackets next ('"' :: body ++ '"' :: rest) =
      (do return (brackets, afterValue brackets, ← skipString (body ++ '"' :: rest))) := by
    cases expects <;> rfl
  rw [passed, skipString_unread unread]
  rfl

theorem skipToken_opens (expects : Expects next brackets) (rest : List Char) :
    skipToken brackets next ('[' :: rest) = .ok (.list :: brackets, some .member, rest) ∧
      skipToken brackets next ('\x7b' :: rest) = .ok (.record :: brackets, some .member, rest) := by
  cases expects <;> exact ⟨rfl, rfl⟩

/-- A name is passed over with its colon. -/
theorem skipToken_name {outer : List Open} {body after : List Char} (unread : Unread body)
    (isAfter : Blank after) (rest : List Char) :
    skipToken (.record :: outer) .name ('"' :: (body ++ '"' :: (after ++ ':' :: rest))) =
      .ok (.record :: outer, some .value, rest) := by
  simp only [skipToken, skipBlanks_cons (c := '"') rfl, skipString_unread unread, bind, Except.bind,
    skipBlanks_append isAfter]
  rfl

/-- Numbers do not start with a blank. -/
theorem solid_of_starts {c : Char} (starts : c = '-' ∨ c.isDigit = true) : isBlank c = false := by
  cases blank : isBlank c with
  | false => rfl
  | true =>
    simp only [isBlank, Bool.or_eq_true, beq_iff_eq] at blank
    rcases blank with ((rfl | rfl) | rfl) | rfl <;> simp at starts

/-- What starts like a number is passed over as one. -/
theorem skipToken_digit (expects : Expects next brackets) {c : Char}
    (starts : c = '-' ∨ c.isDigit = true) (rest : List Char) :
    skipToken brackets next (c :: rest) =
      (do return (brackets, afterValue brackets, ← skipNumber (c :: rest))) := by
  -- No other token starts in the same way.
  cases expects
  all_goals
    unfold skipToken
    rw [skipBlanks_cons (solid_of_starts starts)]
    split <;> simp_all
    exact fun sign digit => absurd starts (by simp [sign, digit])

/-- A token takes one of the bound. -/
theorem skipTokens_of_token {text rest : List Char} {inside : List Open} {after : Next} (bound : Nat)
    (token : skipToken brackets next text = .ok (inside, some after, rest)) :
    skipTokens (bound + 1) brackets next text = skipTokens bound inside after rest := by
  rw [skipTokens, token]
  rfl

theorem skipTokens_blank {blank : List Char} (isBlank : Blank blank) (bound : Nat) (rest : List Char) :
    skipTokens bound brackets next (blank ++ rest) = skipTokens bound brackets next rest := by
  cases bound with
  | zero => rfl
  | succ bound => rw [skipTokens, skipToken_blank isBlank, skipTokens]

/-- Go on after a value, for at most as many tokens as the bound. -/
def resume (bound : Nat) (brackets : List Open) (rest : List Char) : Except ReadError (List Char) :=
  match afterValue brackets with
  | none => .ok rest
  | some next => skipTokens bound brackets next rest

theorem skipTokens_of_last {text rest : List Char} {outer : List Open} (bound : Nat)
    (token : skipToken brackets next text = .ok (outer, afterValue outer, rest)) :
    skipTokens (bound + 1) brackets next text = resume bound outer rest := by
  rw [skipTokens, token]
  cases outer <;> rfl

end Tokens

section Phrases

/-- What passing over a part of a value comes to: the end of the part, after a number of tokens that is
bounded by its length. Elements and members are passed over with the bracket that closes them. -/
def Passes : Part → List Char → Prop
  | .value, text => ∃ steps ≤ 2 * text.length, ∀ bound next brackets rest, Expects next brackets →
      Delimited rest →
      skipTokens (bound + steps) brackets next (text ++ rest) = resume bound brackets rest
  | .element, text => ∃ steps ≤ 2 * text.length, ∀ bound next inner outer rest,
      Expects next (inner :: outer) → Delimited rest →
      skipTokens (bound + steps) (inner :: outer) next (text ++ rest) =
        skipTokens bound (inner :: outer) .separator rest
  | .elements, text => ∃ steps ≤ 2 * text.length + 1, ∀ bound next outer rest,
      Expects next (.list :: outer) →
      skipTokens (bound + steps) (.list :: outer) next (text ++ ']' :: rest) = resume bound outer rest
  | .member, text => ∃ steps ≤ 2 * text.length, ∀ bound outer rest, Delimited rest →
      skipTokens (bound + steps) (.record :: outer) .name (text ++ rest) =
        skipTokens bound (.record :: outer) .separator rest
  | .members, text => ∃ steps ≤ 2 * text.length + 1, ∀ bound outer rest,
      skipTokens (bound + steps) (.record :: outer) .name (text ++ '\x7d' :: rest) =
        resume bound outer rest

/-- A value of one token is passed over. -/
theorem passes_of_token {text : List Char} (nonempty : text ≠ [])
    (token : ∀ next brackets rest, Expects next brackets → Delimited rest →
      skipToken brackets next (text ++ rest) = .ok (brackets, afterValue brackets, rest)) :
    Passes .value text := by
  refine ⟨1, ?_, fun bound next brackets rest expects delimited =>
    skipTokens_of_last bound (token next brackets rest expects delimited)⟩
  have := List.length_pos_iff.mpr nonempty
  omega

/-- The step to a record's first name takes no character. -/
theorem skipTokens_first_name {blank : List Char} (isBlank : Blank blank) (bound : Nat)
    (outer : List Open) (rest : List Char) :
    skipTokens (bound + 1) (.record :: outer) .member (blank ++ '"' :: rest) =
      skipTokens bound (.record :: outer) .name (blank ++ '"' :: rest) := by
  rw [skipTokens_blank isBlank, skipTokens_blank isBlank]
  exact skipTokens_of_token bound rfl

/-- Members start with a name. -/
theorem Phrase.named {text : List Char} (members : Phrase .members text) :
    ∃ before tail, Blank before ∧ text = before ++ '"' :: tail := by
  cases members with
  | oneMember member =>
    cases member with
    | @member before body after text isBefore =>
      exact ⟨before, body ++ '"' :: after ++ ':' :: text, isBefore, by simp⟩
  | @moreMembers first others member =>
    cases member with
    | @member before body after text isBefore =>
      exact ⟨before, body ++ '"' :: after ++ ':' :: text ++ ',' :: others, isBefore, by simp⟩

/-- Blanks keep what follows them delimited. -/
theorem Delimited.after_blank {blank rest : List Char} (isBlank : Blank blank)
    (delimited : Delimited rest) : Delimited (blank ++ rest) := by
  cases blank with
  | nil => exact delimited
  | cons c blank =>
    rintro _ ⟨⟩
    have first := isBlank c List.mem_cons_self
    simp only [List.mem_cons, List.not_mem_nil, or_false] at first ⊢
    grind

theorem delimited_cons (c : Char) (delimiter : c ∈ [' ', '\t', '\n', '\r', ',', ']', '\x7d'])
    (rest : List Char) : Delimited (c :: rest) := by
  rintro _ ⟨⟩
  exact delimiter

theorem Number.passes {text : List Char} (number : Number text) : Passes .value text := by
  have starts : ∃ c tail, text = c :: tail ∧ (c = '-' ∨ c.isDigit = true) := by
    obtain ⟨signed, isWhole, isFraction, isExponent⟩ := number
    simp only [List.mem_cons, List.not_mem_nil, or_false] at signed
    rcases signed with rfl | rfl
    · obtain ⟨d, digits, rfl, digit⟩ := isWhole.starts
      exact ⟨d, _, rfl, .inr digit⟩
    · exact ⟨'-', _, rfl, .inl rfl⟩
  obtain ⟨c, tail, rfl, first⟩ := starts
  refine passes_of_token (List.cons_ne_nil c tail) fun next brackets rest expects delimited => ?_
  rw [List.cons_append, skipToken_digit expects first, ← List.cons_append,
    skipNumber_append number delimited]
  rfl

/-- Every part of a value is passed over. -/
theorem Phrase.passes {part : Part} {text : List Char} (phrase : Phrase part text) :
    Passes part text := by
  -- By induction on the grammar: brackets are opened and closed around what is passed over within, and
  -- every part pays for its tokens with its own characters.
  induction phrase with
  | null => exact passes_of_token (by decide) fun _ _ rest expects _ => skipToken_null expects rest
  | bool value =>
    exact passes_of_token (by cases value <;> decide) fun _ _ rest expects _ =>
      skipToken_bool expects value rest
  | number number => exact number.passes
  | string unread =>
    refine passes_of_token (by simp) fun _ _ rest expects _ => ?_
    simpa using skipToken_string expects unread rest
  | @emptyList blank isBlank =>
    refine ⟨2, by simp only [List.length_append, List.length_cons]; omega,
      fun bound next brackets rest expects _ => ?_⟩
    have closes : skipToken (.list :: brackets) .member (blank ++ ']' :: rest) =
        .ok (brackets, afterValue brackets, rest) := skipToken_blank isBlank _ _ _
    simpa using (skipTokens_of_token (bound + 1) (skipToken_opens expects _).1).trans
      (skipTokens_of_last bound closes)
  | @emptyRecord blank isBlank =>
    refine ⟨2, by simp only [List.length_append, List.length_cons]; omega,
      fun bound next brackets rest expects _ => ?_⟩
    have closes : skipToken (.record :: brackets) .member (blank ++ '\x7d' :: rest) =
        .ok (brackets, afterValue brackets, rest) := skipToken_blank isBlank _ _ _
    simpa using (skipTokens_of_token (bound + 1) (skipToken_opens expects _).2).trans
      (skipTokens_of_last bound closes)
  | @list text _ ih =>
    obtain ⟨steps, short, passed⟩ := ih
    refine ⟨steps + 1, by simp; omega, fun bound next brackets rest expects _ => ?_⟩
    simpa [← Nat.add_assoc] using
      (skipTokens_of_token (bound + steps) (skipToken_opens expects _).1).trans
        (passed bound .member brackets rest .first)
  | @record text members ih =>
    obtain ⟨steps, short, passed⟩ := ih
    refine ⟨steps + 1 + 1, by simp; omega, fun bound next brackets rest expects _ => ?_⟩
    obtain ⟨before, tail, isBlank, rfl⟩ := members.named
    -- The step to the first name takes no character.
    have named := skipTokens_first_name isBlank (bound + steps) brackets (tail ++ '\x7d' :: rest)
    have inside := passed bound brackets rest
    rw [List.append_assoc, List.cons_append] at inside
    simpa [← Nat.add_assoc] using
      (skipTokens_of_token (bound + steps + 1) (skipToken_opens expects _).2).trans (named.trans inside)
  | element before _ after ih =>
    -- Blanks are part of the token that comes after them.
    obtain ⟨steps, short, passed⟩ := ih
    refine ⟨steps, by simp; omega, fun bound next inner outer rest expects delimited => ?_⟩
    rw [List.append_assoc, List.append_assoc, skipTokens_blank before,
      passed bound next _ _ expects (delimited.after_blank after)]
    exact skipTokens_blank after bound rest
  | @oneElement text _ ih =>
    obtain ⟨steps, short, passed⟩ := ih
    refine ⟨steps + 1, by omega, fun bound next outer rest expects => ?_⟩
    rw [Nat.add_comm steps, ← Nat.add_assoc, passed (bound + 1) next _ _ _ expects
      (delimited_cons ']' (by decide) rest)]
    exact skipTokens_of_last bound rfl
  | @moreElements first text _ _ ihFirst ih =>
    obtain ⟨firstSteps, firstShort, firstPassed⟩ := ihFirst
    obtain ⟨steps, short, passed⟩ := ih
    refine ⟨steps + 1 + firstSteps, by simp; omega, fun bound next outer rest expects => ?_⟩
    rw [List.append_assoc, List.cons_append, ← Nat.add_assoc, firstPassed _ next _ _ _ expects
      (delimited_cons ',' (by decide) _)]
    exact (skipTokens_of_token (bound + steps) rfl).trans (passed bound .value outer rest .value)
  | @member before body after text isBefore unread isAfter _ ih =>
    -- The name and its colon are one token, after which the value follows.
    obtain ⟨steps, short, passed⟩ := ih
    refine ⟨steps + 1, by simp; omega, fun bound outer rest delimited => ?_⟩
    have named : skipToken (.record :: outer) .name
        (before ++ '"' :: (body ++ '"' :: (after ++ ':' :: (text ++ rest)))) =
        .ok (.record :: outer, some .value, text ++ rest) := by
      rw [skipToken_blank isBefore]
      exact skipToken_name unread isAfter (text ++ rest)
    simpa [← Nat.add_assoc] using (skipTokens_of_token (bound + steps) named).trans
      (passed bound .value .record outer rest .value delimited)
  | oneMember _ ih =>
    obtain ⟨steps, short, passed⟩ := ih
    refine ⟨steps + 1, by omega, fun bound outer rest => ?_⟩
    rw [Nat.add_comm steps, ← Nat.add_assoc, passed (bound + 1) _ _
      (delimited_cons '\x7d' (by decide) rest)]
    exact skipTokens_of_last bound rfl
  | moreMembers _ _ ihFirst ih =>
    obtain ⟨firstSteps, firstShort, firstPassed⟩ := ihFirst
    obtain ⟨steps, short, passed⟩ := ih
    refine ⟨steps + 1 + firstSteps, by simp; omega, fun bound outer rest => ?_⟩
    rw [List.append_assoc, List.cons_append, ← Nat.add_assoc, firstPassed _ _ _
      (delimited_cons ',' (by decide) _)]
    exact (skipTokens_of_token (bound + steps) rfl).trans (passed bound outer rest)

/-- A value is passed over up to what delimits it. -/
theorem skipValue_append {text : List Char} (element : Phrase .element text) {rest : List Char}
    (delimited : Delimited rest) :
    ∃ blank, Blank blank ∧ skipValue (text ++ rest) = .ok (blank ++ rest) := by
  cases element with
  | @element before text after isBefore value isAfter =>
    obtain ⟨steps, short, passed⟩ := value.passes
    refine ⟨after, isAfter, ?_⟩
    obtain ⟨bound, enough⟩ : ∃ bound,
        2 * (before ++ text ++ after ++ rest).length + 1 = bound + steps :=
      ⟨_, (Nat.sub_add_cancel (by simp; omega)).symm⟩
    rw [skipValue, enough, List.append_assoc, List.append_assoc, skipTokens_blank isBefore,
      passed bound .value [] _ .value (delimited.after_blank isAfter)]
    rfl

end Phrases
end Json

end GuestBoundary
