import GuestBoundary.Proofs.Text.ByteOrder

/-! Decoding: bytes are read character by character, and where no character can be read, the bytes up to
where none can come of them any more count as one broken sequence. -/

namespace GuestBoundary

namespace Utf8

/-- Some bytes are the first of those of a character, or all of them. -/
def Begins (part : List UInt8) : Prop := ∃ character, part <+: String.utf8EncodeChar character

/-- Of bytes that no character starts, the broken sequence that comes first: as many of them as some
character begins with, or the first alone. -/
structure Broken (part rest : List UInt8) : Prop where
  nonempty : part ≠ []
  unreadable : ∀ character, ¬ String.utf8EncodeChar character <+: part ++ rest
  begins : part.length = 1 ∨ Begins part
  longest : ∀ longer, longer <+: part ++ rest → part.length < longer.length → ¬ Begins longer

/-- What bytes decode to: the characters whose bytes they are, and for each broken sequence between them one
character that stands for it. -/
inductive Decodes : List UInt8 → List Char → Prop
  | nil : Decodes [] []
  | character (character : Char) {rest : List UInt8} {characters : List Char} :
      Decodes rest characters →
      Decodes (String.utf8EncodeChar character ++ rest) (character :: characters)
  | broken {part rest : List UInt8} {characters : List Char} :
      Broken part rest → Decodes rest characters → Decodes (part ++ rest) (replacement :: characters)

/-- The bytes that finish a character, where others have led to what is expected. -/
inductive Finishes : Expected → List UInt8 → Char → Prop
  | last {low high byte : UInt8} {bits : Nat} (within : low ≤ byte ∧ byte ≤ high) :
      Finishes (.tail low high 0 bits) [byte] (Char.ofNat (bits * 64 + (byte.toNat - 0x80)))
  | more {low high byte : UInt8} {more bits : Nat} {rest : List UInt8} {character : Char}
      (within : low ≤ byte ∧ byte ≤ high)
      (finishes : Finishes (.tail 0x80 0xBF more (bits * 64 + (byte.toNat - 0x80))) rest character) :
      Finishes (.tail low high (more + 1) bits) (byte :: rest) character

/-- The bytes that are taken, and those after them, where the first of these or the end comes instead of what
is expected. -/
inductive Breaks : Expected → List UInt8 → List UInt8 → Prop
  | here {low high : UInt8} {more bits : Nat} {rest : List UInt8}
      (outside : ∀ byte ∈ rest.head?, ¬ (low ≤ byte ∧ byte ≤ high)) :
      Breaks (.tail low high more bits) [] rest
  | later {low high byte : UInt8} {more bits : Nat} {part rest : List UInt8}
      (within : low ≤ byte ∧ byte ≤ high)
      (breaks : Breaks (.tail 0x80 0xBF more (bits * 64 + (byte.toNat - 0x80))) part rest) :
      Breaks (.tail low high (more + 1) bits) (byte :: part) rest

variable {expected : Expected} {byte : UInt8} {part rest bytes : List UInt8} {character : Char}

/-- The characters so far do not matter for those to come. -/
theorem run_reversed (expected : Expected) (reversed : List Char) (bytes : List UInt8) :
    run expected reversed bytes = reversed.reverse ++ run expected [] bytes := by
  induction bytes generalizing expected reversed with
  | nil => cases expected <;> simp [run]
  | cons byte rest ih =>
    simp only [run]
    rw [ih, ih _ (_ ++ [])]
    simp

/-- A byte decides its characters, and the rest is decoded as it then must be. -/
theorem run_cons (expected : Expected) (byte : UInt8) (rest : List UInt8) :
    run expected [] (byte :: rest) = (step expected byte).2 ++ run (step expected byte).1 [] rest := by
  simp only [run]
  rw [run_reversed]
  simp

/-- Decoding starts with a first byte. -/
theorem decodeChars_cons (byte : UInt8) (rest : List UInt8) :
    decodeChars (byte :: rest) = (first byte).2 ++ run (first byte).1 [] rest := run_cons ..

/-- Bytes that finish a character decode to it. -/
theorem Finishes.run (finishes : Finishes expected part character) (rest : List UInt8) :
    run expected [] (part ++ rest) = character :: decodeChars rest := by
  -- Nothing is decided before the last byte, and after it a new character starts.
  induction finishes with
  | last within =>
    rw [List.singleton_append, run_cons, step, if_pos within]
    rfl
  | more within _ ih =>
    rw [List.cons_append, run_cons, step, if_pos within]
    exact ih

/-- Bytes that break off decode to the one character that stands for them. -/
theorem Breaks.run (breaks : Breaks expected part rest) :
    run expected [] (part ++ rest) = replacement :: decodeChars rest := by
  induction breaks with
  | @here low high more bits rest outside =>
    cases rest with
    | nil => rfl
    | cons byte rest =>
      -- The byte that is not expected starts afresh.
      rw [List.nil_append, run_cons, step, if_neg (outside byte rfl), decodeChars_cons]
      rfl
  | later within _ ih =>
    rw [List.cons_append, run_cons, step, if_pos within]
    exact ih

/-- Whatever bytes come, they finish a character or break off. -/
theorem finishes_or_breaks (low high : UInt8) (more bits : Nat) (bytes : List UInt8) :
    (∃ part rest character, bytes = part ++ rest ∧ Finishes (.tail low high more bits) part character) ∨
      ∃ part rest, bytes = part ++ rest ∧ Breaks (.tail low high more bits) part rest := by
  -- Each byte is expected and followed by the rest, or it is where the sequence breaks.
  induction bytes generalizing low high more bits with
  | nil => exact .inr ⟨[], [], rfl, .here nofun⟩
  | cons byte rest ih =>
    by_cases within : low ≤ byte ∧ byte ≤ high
    · cases more with
      | zero => exact .inl ⟨[byte], rest, _, rfl, .last within⟩
      | succ more =>
        rcases ih 0x80 0xBF more (bits * 64 + (byte.toNat - 0x80)) with
          ⟨part, after, character, rfl, finishes⟩ | ⟨part, after, rfl, breaks⟩
        · exact .inl ⟨byte :: part, after, character, rfl, .more within finishes⟩
        · exact .inr ⟨byte :: part, after, rfl, .later within breaks⟩
    · refine .inr ⟨[], byte :: rest, rfl, .here fun other given => ?_⟩
      cases given
      exact within

/-- Whatever is expected can come. -/
theorem exists_finishes {low high : UInt8} (ordered : low ≤ high) (more bits : Nat) :
    ∃ part character, Finishes (.tail low high more bits) part character := by
  -- The lowest byte that is expected will do at every place.
  induction more generalizing low high bits with
  | zero => exact ⟨_, _, .last ⟨UInt8.le_refl low, ordered⟩⟩
  | succ more ih =>
    have later : (0x80 : UInt8) ≤ 0xBF := by decide
    obtain ⟨part, character, finishes⟩ := ih later (bits * 64 + (low.toNat - 0x80))
    exact ⟨_, _, .more ⟨UInt8.le_refl low, ordered⟩ finishes⟩

/-- Where bytes break off, there are others with which they would have finished a character. -/
theorem Breaks.exists_finishes {low high : UInt8} {more bits : Nat} (ordered : low ≤ high)
    (breaks : Breaks (.tail low high more bits) part rest) :
    ∃ others character, Finishes (.tail low high more bits) (part ++ others) character := by
  -- All of them were expected, and so is something after them.
  induction part generalizing low high more bits with
  | nil => exact Utf8.exists_finishes ordered more bits
  | cons byte part ih =>
    cases breaks with
    | later within breaks =>
      obtain ⟨others, character, finishes⟩ := ih (by decide) breaks
      exact ⟨others, character, .more within finishes⟩

/-- A character is finished by as many bytes as are expected. -/
theorem Finishes.length {low high : UInt8} {more bits : Nat}
    (finishes : Finishes (.tail low high more bits) part character) : part.length = more + 1 := by
  induction more generalizing low high bits part with
  | zero =>
    cases finishes with
    | last within => rfl
  | succ more ih =>
    cases finishes with
    | more within finishes => rw [List.length_cons, ih finishes]

/-- Bytes that break off are fewer than those that are expected. -/
theorem Breaks.length_le {low high : UInt8} {more bits : Nat}
    (breaks : Breaks (.tail low high more bits) part rest) : part.length ≤ more := by
  induction part generalizing low high more bits with
  | nil => exact Nat.zero_le _
  | cons byte part ih =>
    cases breaks with
    | later within breaks => exact Nat.succ_le_succ (ih breaks)

/-- What is expected next of bytes that would finish a character. -/
theorem Finishes.within {low high byte : UInt8} {more bits : Nat}
    (finishes : Finishes (.tail low high more bits) (byte :: rest) character) :
    low ≤ byte ∧ byte ≤ high := by
  cases finishes with
  | last within => exact within
  | more within => exact within

/-- Bytes that break off part with those of any character there at the latest. -/
theorem Breaks.parts {common other : List UInt8} (breaks : Breaks expected part rest)
    (finishes : Finishes expected other character) (one : common <+: other)
    (two : common <+: part ++ rest) : common.length ≤ part.length := by
  induction breaks generalizing common other character with
  | here outside =>
    -- What such bytes begin with is expected, and what comes here is not.
    cases common with
    | nil => exact Nat.le_refl 0
    | cons byte common =>
      obtain ⟨others, rfl⟩ := one
      obtain ⟨after, split⟩ := two
      refine absurd finishes.within (outside byte ?_)
      rw [List.nil_append] at split
      rw [← split]
      rfl
  | later within _ ih =>
    cases common with
    | nil => exact Nat.zero_le _
    | cons byte common =>
      obtain ⟨rfl, second⟩ := List.cons_prefix_cons.mp two
      cases finishes with
      | more inside finishes =>
        obtain ⟨rfl, first⟩ := List.cons_prefix_cons.mp one
        exact Nat.succ_le_succ (ih finishes first second)

/-- A byte below 128 is a character by itself. -/
theorem first_one (ascii : byte.toNat < 0x80) : first byte = (.lead, [Char.ofNat byte.toNat]) := by
  simp only [first, if_pos ascii]

/-- A first byte of two; two lower ones would only announce overlong forms. -/
theorem first_two (low : 0xC2 ≤ byte.toNat) (high : byte.toNat < 0xE0) :
    first byte = (.tail 0x80 0xBF 0 (byte.toNat - 0xC0), []) := by
  simp only [first]
  rw [if_neg (by omega), if_neg (by omega), if_pos high]

/-- A first byte of three. After the lowest, small second bytes would make overlong forms, and after one
other, large ones would make surrogates. -/
theorem first_three (low : 0xE0 ≤ byte.toNat) (high : byte.toNat < 0xF0) :
    first byte = (.tail (if byte.toNat = 0xE0 then 0xA0 else 0x80)
      (if byte.toNat = 0xED then 0x9F else 0xBF) 1 (byte.toNat - 0xE0), []) := by
  simp only [first]
  rw [if_neg (by omega), if_neg (by omega), if_neg (by omega)]
  by_cases least : byte.toNat = 0xE0
  · simp [least]
  · by_cases surrogate : byte.toNat = 0xED
    · simp [surrogate]
    · simp [least, surrogate, high]

/-- A first byte of four. After the lowest, small second bytes would make overlong forms, and after the
highest, large ones would pass the last plane. -/
theorem first_four (low : 0xF0 ≤ byte.toNat) (high : byte.toNat < 0xF5) :
    first byte = (.tail (if byte.toNat = 0xF0 then 0x90 else 0x80)
      (if byte.toNat = 0xF4 then 0x8F else 0xBF) 2 (byte.toNat - 0xF0), []) := by
  obtain least | middle | most : byte.toNat = 0xF0 ∨ 0xF0 < byte.toNat ∧ byte.toNat < 0xF4 ∨
      byte.toNat = 0xF4 := by omega
  · simp [first, least]
  · simp only [first]
    simp (disch := omega) only [if_neg, if_pos]
  · simp [first, most]

/-- All other bytes start nothing. -/
theorem first_stray (high : 0x80 ≤ byte.toNat) (none : byte.toNat < 0xC2 ∨ 0xF5 ≤ byte.toNat) :
    first byte = (.lead, [replacement]) := by
  simp only [first]
  rw [if_neg (by omega)]
  rcases none with early | late
  · rw [if_pos early]
  · simp (disch := omega) only [if_neg]

/-- Bounds of a second byte that are narrower after one first byte each. -/
theorem within_iff {value least most : Nat} {low high : UInt8} (raised : 0x80 ≤ low.toNat)
    (lowered : high.toNat ≤ 0xBF) :
    ((if value = least then low else 0x80) ≤ byte ∧ byte ≤ (if value = most then high else 0xBF)) ↔
      (0x80 ≤ byte.toNat ∧ byte.toNat ≤ 0xBF) ∧ (value = least → low.toNat ≤ byte.toNat) ∧
        (value = most → byte.toNat ≤ high.toNat) := by
  have least : (0x80 : UInt8).toNat = 0x80 := rfl
  have most : (0xBF : UInt8).toNat = 0xBF := rfl
  rw [UInt8.le_iff_toNat_le, UInt8.le_iff_toNat_le]
  split <;> split <;> omega

/-- A later byte is one of sixty-four. -/
theorem later_iff : (0x80 ≤ byte ∧ byte ≤ 0xBF) ↔ 0x80 ≤ byte.toNat ∧ byte.toNat ≤ 0xBF := by
  rw [UInt8.le_iff_toNat_le, UInt8.le_iff_toNat_le]
  rfl

/-- The last byte completes a number. -/
theorem Finishes.of_last {low high : UInt8} {bits value : Nat} (within : low ≤ byte ∧ byte ≤ high)
    (number : bits * 64 + (byte.toNat - 0x80) = value) :
    Finishes (.tail low high 0 bits) [byte] (Char.ofNat value) :=
  number ▸ .last within

/-- After its first byte, the bytes of a character are those that are expected. -/
theorem CharBytes.finishes {value : Nat} (bytes : CharBytes value (byte :: rest))
    (valid : value.isValidChar) (long : 0x80 ≤ byte.toNat) :
    Finishes (first byte).1 rest (Char.ofNat value) := by
  -- The ranges of the number are those of the first bytes, and within them the bounds of the second.
  rw [Nat.isValidChar] at valid
  cases bytes with
  | one => omega
  | two low high lead second =>
    rw [first_two (by omega) (by omega)]
    exact .of_last (later_iff.mpr (by omega)) (by omega)
  | three low high lead second third =>
    rw [first_three (by omega) (by omega)]
    refine .more ((within_iff (by decide) (by decide)).mpr ?_)
      (.of_last (later_iff.mpr (by omega)) (by omega))
    simp only [UInt8.reduceToNat]
    omega
  | four low high lead second third fourth =>
    rw [first_four (by omega) (by omega)]
    refine .more ((within_iff (by decide) (by decide)).mpr ?_)
      (.more (later_iff.mpr (by omega)) (.of_last (later_iff.mpr (by omega)) (by omega)))
    simp only [UInt8.reduceToNat]
    omega

/-- Bytes that are expected after a first byte are, with it, those of a character. -/
theorem Finishes.charBytes (finishes : Finishes (first byte).1 rest character) :
    ∃ value, value.isValidChar ∧ character = Char.ofNat value ∧ CharBytes value (byte :: rest) := by
  obtain ascii | early | two | three | four | late : byte.toNat < 0x80 ∨
    (0x80 ≤ byte.toNat ∧ byte.toNat < 0xC2) ∨ (0xC2 ≤ byte.toNat ∧ byte.toNat < 0xE0) ∨
    (0xE0 ≤ byte.toNat ∧ byte.toNat < 0xF0) ∨ (0xF0 ≤ byte.toNat ∧ byte.toNat < 0xF5) ∨
    0xF5 ≤ byte.toNat := by omega
  -- After a first byte that is a character or of none, nothing is expected.
  · rw [first_one ascii] at finishes
    cases finishes
  · rw [first_stray early.1 (.inl early.2)] at finishes
    cases finishes
  · rw [first_two two.1 two.2] at finishes
    cases finishes with
    | last within =>
      have within := later_iff.mp within
      refine ⟨_, ?_, rfl, .two (by omega) (by omega) (by omega) (by omega)⟩
      rw [Nat.isValidChar]
      omega
  · rw [first_three three.1 three.2] at finishes
    cases finishes with
    | more inner finishes =>
      cases finishes with
      | last within =>
        have within := later_iff.mp within
        have inner := (within_iff (by decide) (by decide)).mp inner
        simp only [UInt8.reduceToNat] at inner
        refine ⟨_, ?_, rfl, .three (by omega) (by omega) (by omega) (by omega) (by omega)⟩
        rw [Nat.isValidChar]
        omega
  · rw [first_four four.1 four.2] at finishes
    cases finishes with
    | more outer finishes =>
      cases finishes with
      | more inner finishes =>
        cases finishes with
        | last within =>
          have within := later_iff.mp within
          have inner := later_iff.mp inner
          have outer := (within_iff (by decide) (by decide)).mp outer
          simp only [UInt8.reduceToNat] at outer
          refine ⟨_, ?_, rfl,
            .four (by omega) (by omega) (by omega) (by omega) (by omega) (by omega)⟩
          rw [Nat.isValidChar]
          omega
  · rw [first_stray (by omega) (.inr late)] at finishes
    cases finishes

/-- The bytes of a character that is not a single byte finish it. -/
theorem finishes_of_encode (encoded : String.utf8EncodeChar character = byte :: rest)
    (long : 0x80 ≤ byte.toNat) : Finishes (first byte).1 rest character := by
  have bytes := charBytes character
  rw [encoded] at bytes
  have finishes := bytes.finishes character.valid long
  rwa [Char.ofNat_toNat] at finishes

/-- A number that is that of a character belongs to it. -/
theorem toNat_char {value : Nat} (valid : value.isValidChar) : (Char.ofNat value).toNat = value := by
  rw [Char.ofNat, dif_pos valid]
  exact UInt32.toNat_ofNatLT

/-- Bytes that finish a character are its encoding. -/
theorem Finishes.encode (finishes : Finishes (first byte).1 rest character) :
    String.utf8EncodeChar character = byte :: rest := by
  obtain ⟨value, valid, rfl, bytes⟩ := finishes.charBytes
  have encoded := Utf8.charBytes (Char.ofNat value)
  rw [toNat_char valid] at encoded
  exact encoded.unique bytes

/-- A byte below 128 is all of its character. -/
theorem encode_one (ascii : byte.toNat < 0x80) :
    String.utf8EncodeChar (Char.ofNat byte.toNat) = [byte] := by
  have encoded := charBytes (Char.ofNat byte.toNat)
  rw [toNat_char (.inl (by omega))] at encoded
  exact encoded.unique (.one ascii rfl)

/-- A first byte is a character, or of none, or something can come after it. -/
theorem first_cases (byte : UInt8) :
    (byte.toNat < 0x80 ∧ first byte = (.lead, [Char.ofNat byte.toNat])) ∨
    (0x80 ≤ byte.toNat ∧ first byte = (.lead, [replacement])) ∨
    ∃ low high more bits, low ≤ high ∧ 0x80 ≤ byte.toNat ∧ first byte = (.tail low high more bits, []) := by
  obtain ascii | stray | two | three | four : byte.toNat < 0x80 ∨
    (0x80 ≤ byte.toNat ∧ (byte.toNat < 0xC2 ∨ 0xF5 ≤ byte.toNat)) ∨
    (0xC2 ≤ byte.toNat ∧ byte.toNat < 0xE0) ∨ (0xE0 ≤ byte.toNat ∧ byte.toNat < 0xF0) ∨
    (0xF0 ≤ byte.toNat ∧ byte.toNat < 0xF5) := by omega
  · exact .inl ⟨ascii, first_one ascii⟩
  · exact .inr (.inl ⟨stray.1, first_stray stray.1 stray.2⟩)
  · exact .inr (.inr ⟨_, _, _, _, by decide, by omega, first_two two.1 two.2⟩)
  · refine .inr (.inr ⟨_, _, _, _, ?_, by omega, first_three three.1 three.2⟩)
    split <;> split <;> first | decide | omega
  · refine .inr (.inr ⟨_, _, _, _, ?_, by omega, first_four four.1 four.2⟩)
    split <;> split <;> first | decide | omega

/-- What is a part of a character's bytes begins with the first of them. -/
theorem starts_cons {common : List UInt8} (given : byte :: common <+: String.utf8EncodeChar character) :
    ∃ rest, String.utf8EncodeChar character = byte :: rest ∧ common <+: rest := by
  obtain ⟨after, split⟩ := given
  exact ⟨common ++ after, split.symm, List.prefix_append ..⟩

/-- A character whose bytes come first begins with the first byte that comes. -/
theorem encode_starts (given : String.utf8EncodeChar character <+: byte :: bytes) :
    ∃ rest, String.utf8EncodeChar character = byte :: rest ∧ rest <+: bytes := by
  obtain ⟨other, rest, encoded⟩ := List.exists_cons_of_ne_nil (charBytes character).ne_nil
  rw [encoded] at given
  obtain ⟨rfl, inside⟩ := List.cons_prefix_cons.mp given
  exact ⟨rest, encoded, inside⟩

/-- A byte of no character is a broken sequence by itself. -/
theorem broken_stray (long : 0x80 ≤ byte.toNat) (stray : first byte = (.lead, [replacement]))
    (rest : List UInt8) : Broken [byte] rest := by
  have none {character : Char} {others : List UInt8} :
      String.utf8EncodeChar character ≠ byte :: others := by
    intro encoded
    have finishes := finishes_of_encode encoded long
    rw [stray] at finishes
    cases finishes
  refine ⟨nofun, fun character whole => ?_, .inl rfl, fun longer inside more ⟨character, begins⟩ => ?_⟩
  · obtain ⟨others, encoded, -⟩ := encode_starts whole
    exact none encoded
  · cases longer with
    | nil => cases more
    | cons other longer =>
      obtain ⟨rfl, -⟩ := List.cons_prefix_cons.mp inside
      obtain ⟨others, encoded, -⟩ := starts_cons begins
      exact none encoded

/-- A first byte and those after it up to where they break off are a broken sequence. -/
theorem Breaks.broken {low high : UInt8} {more bits : Nat} (long : 0x80 ≤ byte.toNat)
    (ordered : low ≤ high) (announced : first byte = (.tail low high more bits, []))
    (breaks : Breaks (.tail low high more bits) part rest) : Broken (byte :: part) rest := by
  -- Whatever character the first byte is of, its other bytes are those that are expected.
  have finishes {character : Char} {others : List UInt8}
      (encoded : String.utf8EncodeChar character = byte :: others) :
      Finishes (.tail low high more bits) others character := by
    have given := finishes_of_encode encoded long
    rwa [announced] at given
  refine ⟨nofun, fun character whole => ?_, .inr ?_, fun longer inside further ⟨character, begins⟩ => ?_⟩
  · -- A character would have gone on to its end, which is further than where these break off.
    obtain ⟨others, encoded, whole⟩ := encode_starts whole
    have kept := breaks.parts (finishes encoded) (List.prefix_refl _) whole
    have count := (finishes encoded).length
    have fewer := breaks.length_le
    omega
  · -- Up to there, something could have finished a character.
    obtain ⟨others, character, finishes⟩ := breaks.exists_finishes ordered
    have started : Finishes (first byte).1 (part ++ others) character := by rwa [announced]
    exact ⟨character, others, started.encode.symm⟩
  · -- Anything longer has a byte that no character has there.
    cases longer with
    | nil => cases further
    | cons other longer =>
      obtain ⟨rfl, along⟩ := List.cons_prefix_cons.mp inside
      obtain ⟨others, encoded, begins⟩ := starts_cons begins
      have kept := breaks.parts (finishes encoded) begins along
      simp only [List.length_cons] at further
      omega

/-- Bytes decode to what the automaton makes of them. -/
theorem decodes_decodeChars (bytes : List UInt8) : Decodes bytes (decodeChars bytes) := by
  -- What is decoded first is a character or a broken sequence, and the bytes after it are fewer.
  match bytes with
  | [] => exact .nil
  | byte :: rest =>
    rw [decodeChars_cons]
    rcases first_cases byte with
      ⟨ascii, found⟩ | ⟨long, stray⟩ | ⟨low, high, more, bits, ordered, long, announced⟩
    · rw [found, ← List.singleton_append, ← encode_one ascii]
      exact .character _ (decodes_decodeChars rest)
    · rw [stray, ← List.singleton_append]
      exact .broken (broken_stray long stray rest) (decodes_decodeChars rest)
    · rw [announced, List.nil_append]
      rcases finishes_or_breaks low high more bits rest with
        ⟨part, after, character, split, finishes⟩ | ⟨part, after, split, breaks⟩
      · have started : Finishes (first byte).1 part character := by rwa [announced]
        have shorter : after.length ≤ rest.length := by simp [split]
        rw [split, finishes.run, ← List.cons_append, ← started.encode]
        exact .character _ (decodes_decodeChars after)
      · have shorter : after.length ≤ rest.length := by simp [split]
        rw [split, breaks.run, ← List.cons_append]
        exact .broken (breaks.broken long ordered announced) (decodes_decodeChars after)
termination_by bytes.length
decreasing_by all_goals simp only [List.length_cons]; omega

/-- The bytes of a character that comes first decode to it. -/
theorem decodeChars_encode (character : Char) (rest : List UInt8) :
    decodeChars (String.utf8EncodeChar character ++ rest) = character :: decodeChars rest := by
  obtain ⟨byte, others, encoded⟩ := List.exists_cons_of_ne_nil (charBytes character).ne_nil
  rw [encoded, List.cons_append, decodeChars_cons]
  rcases first_cases byte with
    ⟨ascii, found⟩ | ⟨long, stray⟩ | ⟨low, high, more, bits, -, long, announced⟩
  · -- The byte is that of one character alone, which is all there is.
    have bytes := charBytes character
    rw [encoded] at bytes
    cases bytes with
    | one high lead =>
      rw [found, lead, Char.ofNat_toNat]
      rfl
    | _ => omega
  · have finishes := finishes_of_encode encoded long
    rw [stray] at finishes
    cases finishes
  · have finishes := finishes_of_encode encoded long
    rw [announced] at finishes ⊢
    exact finishes.run rest

/-- The bytes of a character are no part of those of another. -/
theorem encode_inj {other : Char} {others : List UInt8}
    (same : String.utf8EncodeChar character ++ rest = String.utf8EncodeChar other ++ others) :
    character = other ∧ rest = others := by
  -- The decoder tells which character comes first.
  have decoded := congrArg decodeChars same
  rw [decodeChars_encode, decodeChars_encode] at decoded
  obtain ⟨rfl, -⟩ := List.cons.inj decoded
  exact ⟨rfl, List.append_cancel_left same⟩

/-- No bytes start with two broken sequences. -/
theorem Broken.inj {other others : List UInt8} (one : Broken part rest) (second : Broken other others)
    (same : part ++ rest = other ++ others) : part = other ∧ rest = others := by
  -- The longer of the two would not have ended with the shorter one.
  have notLonger {part rest other others : List UInt8} (one : Broken part rest)
      (second : Broken other others) (same : part ++ rest = other ++ others) :
      other.length ≤ part.length := by
    refine Nat.le_of_not_lt fun longer => ?_
    have positive := List.length_pos_iff.mpr one.nonempty
    rcases second.begins with single | begins
    · omega
    · exact one.longest other (same ▸ List.prefix_append other others) longer begins
  exact List.append_inj same (Nat.le_antisymm (notLonger second one same.symm) (notLonger one second same))

/-- Bytes decode to one sequence of characters. -/
theorem Decodes.unique {characters others : List Char} (one : Decodes bytes characters)
    (second : Decodes bytes others) : characters = others := by
  -- What comes first is one of the three, and as many bytes of it in both.
  induction one generalizing others with
  | nil =>
    generalize same : [] = bytes at second
    cases second with
    | nil => rfl
    | character character =>
      exact absurd (List.append_eq_nil_iff.mp same.symm).1 (charBytes character).ne_nil
    | broken broken => exact absurd (List.append_eq_nil_iff.mp same.symm).1 broken.nonempty
  | @character character rest characters _ ih =>
    generalize same : String.utf8EncodeChar character ++ rest = bytes at second
    cases second with
    | nil => exact absurd (List.append_eq_nil_iff.mp same).1 (charBytes character).ne_nil
    | character other rest =>
      obtain ⟨rfl, rfl⟩ := encode_inj same
      rw [ih rest]
    | broken broken => exact absurd ⟨rest, same⟩ (broken.unreadable character)
  | @broken part rest characters broken _ ih =>
    generalize same : part ++ rest = bytes at second
    cases second with
    | nil => exact absurd (List.append_eq_nil_iff.mp same).1 broken.nonempty
    | character other after => exact absurd ⟨_, same.symm⟩ (broken.unreadable other)
    | broken other after =>
      obtain ⟨rfl, rfl⟩ := broken.inj other same
      rw [ih after]

/-- The decoder does what decoding is. -/
theorem decodes_iff {characters : List Char} : Decodes bytes characters ↔ decodeChars bytes = characters :=
  ⟨fun decodes => (decodes_decodeChars bytes).unique decodes, fun same => same ▸ decodes_decodeChars bytes⟩

/-- A broken end of a character counts once, and what follows a broken sequence is decoded as ever. -/
example : decode [0x6F, 0xE2, 0x82, 0x6B, 0xED, 0xA0, 0xF0, 0x9F, 0x98] = "o\ufffdk\ufffd\ufffd\ufffd" := by
  decide

/-- The characters of a text come before those of the bytes that follow it. -/
theorem decode_encode_append (text : String) (bytes : List UInt8) :
    decode (encode text ++ bytes) = text ++ decode bytes := by
  -- One character at a time, on the list of them.
  have chars (characters : List Char) :
      decodeChars (encodeChars characters ++ bytes) = characters ++ decodeChars bytes := by
    induction characters with
    | nil => rfl
    | cons character rest ih =>
      rw [encodeChars, List.flatMap_cons, List.append_assoc, decodeChars_encode]
      exact congrArg _ ih
  rw [decode, encode, chars, String.ofList_append, String.ofList_toList, decode]

/-- A text that has been encoded decodes to itself. -/
theorem decode_encode (text : String) : decode (encode text) = text := by
  have whole := decode_encode_append text []
  rw [List.append_nil] at whole
  exact whole.trans String.append_empty

/-- Bytes that decode without a broken sequence are the encoding of what they decode to. -/
theorem Decodes.encodeChars {characters : List Char} (decodes : Decodes bytes characters)
    (unbroken : replacement ∉ characters) : bytes = encodeChars characters := by
  -- A broken sequence would have left the character that stands for it.
  induction decodes with
  | nil => rfl
  | character character _ ih =>
    rw [Utf8.encodeChars, List.flatMap_cons, ih fun later => unbroken (List.mem_cons_of_mem _ later)]
    rfl
  | broken => exact absurd List.mem_cons_self unbroken

/-- Bytes that decode without a broken sequence are the encoding of their text. -/
theorem encode_decode (unbroken : replacement ∉ (decode bytes).toList) : encode (decode bytes) = bytes := by
  rw [decode, String.toList_ofList] at unbroken
  rw [encode, decode, String.toList_ofList, ← (decodes_decodeChars bytes).encodeChars unbroken]

end Utf8

end GuestBoundary
