/-! The grammar of JSON text, as far as it decides what a text says: blanks, strings with their meaning,
numbers, and values of which only the form counts. -/

namespace GuestBoundary

namespace Json

/-- The texts that stand for a value. -/
abbrev Form (α : Type) := α → List Char → Prop

/-- Text between tokens. -/
def Blank (text : List Char) : Prop := ∀ c ∈ text, c ∈ [' ', '\t', '\n', '\r']

/-- What may follow a value: a blank, a comma, a closing bracket or the end. -/
def Delimited (text : List Char) : Prop :=
  ∀ c ∈ text.head?, c ∈ [' ', '\t', '\n', '\r', ',', ']', '\x7d']

/-- A hexadecimal digit, of either case. -/
def HexDigit (digit : Char) (value : Nat) : Prop :=
  value < 16 ∧ (digit = value.digitChar ∨ digit = value.digitChar.toUpper)

/-- Four hexadecimal digits that name a code unit. -/
inductive HexUnit : List Char → Nat → Prop
  | intro {a b c d : Char} {i j k l : Nat} : HexDigit a i → HexDigit b j → HexDigit c k →
      HexDigit d l → HexUnit [a, b, c, d] (((i * 16 + j) * 16 + k) * 16 + l)

/-- The letters of escapes, with the characters that they stand for. -/
def escapes : List (Char × Char) :=
  [('"', '"'), ('\\', '\\'), ('/', '/'), ('b', '\x08'), ('f', '\x0c'), ('n', '\n'), ('r', '\r'),
    ('t', '\t')]

/-- A character may stand in a string for itself. -/
def Plain (c : Char) : Prop := 0x20 ≤ c.toNat ∧ c ≠ '"' ∧ c ≠ '\\'

/-- The ways to write one character in a string. -/
inductive Writes : Char → List Char → Prop
  | plain {c : Char} : Plain c → Writes c [c]
  | escape {letter c : Char} : (letter, c) ∈ escapes → Writes c ['\\', letter]
  | unit {digits : List Char} {unit : Nat} : HexUnit digits unit →
      ¬ (0xD800 ≤ unit ∧ unit ≤ 0xDFFF) → Writes (Char.ofNat unit) ('\\' :: 'u' :: digits)
  /-- Two code units, of which neither is a character, name one beyond the first plane. -/
  | pair {first second : List Char} {high low : Nat} : HexUnit first high → HexUnit second low →
      0xD800 ≤ high → high ≤ 0xDBFF → 0xDC00 ≤ low → low ≤ 0xDFFF →
      Writes (Char.ofNat (0x10000 + (high - 0xD800) * 0x400 + (low - 0xDC00)))
        ('\\' :: 'u' :: first ++ '\\' :: 'u' :: second)

/-- The ways to write characters between the quotes of a string. -/
inductive Content : List Char → List Char → Prop
  | nil : Content [] []
  | cons {c : Char} {piece rest : List Char} {chars : List Char} : Writes c piece →
      Content chars rest → Content (c :: chars) (piece ++ rest)

/-- The strings that stand for a text. -/
def textForm : Form String := fun meaning text =>
  ∃ body, Content meaning.toList body ∧ text = '"' :: body ++ ['"']

/-- The words that stand for a boolean. -/
def boolForm : Form Bool := fun value text => text = (if value then "true" else "false").toList

/-- The digits that stand for a natural number, which has no leading zeros. -/
def naturalForm : Form Nat := fun value text => text = Nat.toDigits 10 value

/-- Null, or what stands for a value. -/
def optionalForm {α : Type} (form : Form α) : Form (Option α)
  | none, text => text = ['n', 'u', 'l', 'l']
  | some value, text => form value text

/-- Between the quotes of a string whose meaning does not count; code units may be halves of pairs that
stand alone. -/
inductive Unread : List Char → Prop
  | nil : Unread []
  | plain {c : Char} {rest : List Char} : Plain c → Unread rest → Unread (c :: rest)
  | escape {letter c : Char} {rest : List Char} : (letter, c) ∈ escapes → Unread rest →
      Unread ('\\' :: letter :: rest)
  | unit {digits rest : List Char} {unit : Nat} : HexUnit digits unit → Unread rest →
      Unread ('\\' :: 'u' :: digits ++ rest)

/-- Digits, at least one. -/
def Digits (text : List Char) : Prop := text ≠ [] ∧ ∀ c ∈ text, c.isDigit = true

/-- The whole part of a number: no digit follows a leading zero. -/
def Whole (text : List Char) : Prop := Digits text ∧ (text.head? = some '0' → text = ['0'])

/-- A number: its sign, its whole part, and perhaps a fraction and an exponent. -/
inductive Number : List Char → Prop
  | intro {sign whole fraction exponent : List Char} : sign ∈ [[], ['-']] → Whole whole →
      (fraction = [] ∨ ∃ digits, Digits digits ∧ fraction = '.' :: digits) →
      (exponent = [] ∨ ∃ mark ∈ ['e', 'E'], ∃ sign ∈ [[], ['+'], ['-']], ∃ digits,
        Digits digits ∧ exponent = mark :: sign ++ digits) →
      Number (sign ++ whole ++ fraction ++ exponent)

/-- The parts of a value. -/
inductive Part where
  | value
  /-- A value with the blanks around it. -/
  | element
  /-- Elements, separated by commas. -/
  | elements
  /-- A name, a colon and an element. -/
  | member
  /-- Members, separated by commas. -/
  | members

/-- JSON text of whatever content, part by part. -/
inductive Phrase : Part → List Char → Prop
  | null : Phrase .value "null".toList
  | bool (value : Bool) : Phrase .value (if value then "true" else "false").toList
  | number {text : List Char} : Number text → Phrase .value text
  | string {body : List Char} : Unread body → Phrase .value ('"' :: body ++ ['"'])
  | emptyList {blank : List Char} : Blank blank → Phrase .value ('[' :: blank ++ [']'])
  | list {text : List Char} : Phrase .elements text → Phrase .value ('[' :: text ++ [']'])
  | emptyRecord {blank : List Char} : Blank blank → Phrase .value ('\x7b' :: blank ++ ['\x7d'])
  | record {text : List Char} : Phrase .members text → Phrase .value ('\x7b' :: text ++ ['\x7d'])
  | element {before text after : List Char} : Blank before → Phrase .value text → Blank after →
      Phrase .element (before ++ text ++ after)
  | oneElement {text : List Char} : Phrase .element text → Phrase .elements text
  | moreElements {first rest : List Char} : Phrase .element first → Phrase .elements rest →
      Phrase .elements (first ++ ',' :: rest)
  | member {before body after text : List Char} : Blank before → Unread body → Blank after →
      Phrase .element text → Phrase .member (before ++ '"' :: body ++ '"' :: after ++ ':' :: text)
  | oneMember {text : List Char} : Phrase .member text → Phrase .members text
  | moreMembers {first rest : List Char} : Phrase .member first → Phrase .members rest →
      Phrase .members (first ++ ',' :: rest)

end Json

end GuestBoundary
