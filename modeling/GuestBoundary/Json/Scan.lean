/-! Scanning JSON text from the left: blanks, words, strings and numbers, with the first error met. -/

namespace GuestBoundary

namespace Json

/-- The three ways in which a text can fail to be read. -/
inductive ReadError where
  /-- Well-formed so far, but not the kind of value asked for. -/
  | wrongType
  /-- Not JSON at this point. -/
  | illFormed
  /-- The text ends early. -/
  | incomplete
  deriving DecidableEq

/-- The class of a reading error as reports name it. -/
def ReadError.text : ReadError → String
  | .wrongType => "data"
  | .illFormed => "syntax"
  | .incomplete => "eof"

/-- A reader takes a value off the front of a text and gives what is left. -/
abbrev Reader (α : Type) := List Char → Except ReadError (α × List Char)

/-- The characters that may stand between tokens. -/
def isBlank (c : Char) : Bool := c == ' ' || c == '\n' || c == '\t' || c == '\r'

/-- A text without its leading blanks. -/
def skipBlanks (text : List Char) : List Char := text.dropWhile isBlank

/-- Take the letters of a word off the front of a text. -/
def readWord : List Char → Reader Unit
  | [], text => .ok ((), text)
  | _ :: _, [] => .error .incomplete
  | letter :: letters, c :: rest =>
    if c = letter then readWord letters rest else .error .illFormed

/-- The value of a hexadecimal digit of either case. -/
def hexDigit? (c : Char) : Option Nat :=
  let code := c.toNat
  if '0'.toNat ≤ code ∧ code ≤ '9'.toNat then some (code - '0'.toNat)
  else if 'a'.toNat ≤ code ∧ code ≤ 'f'.toNat then some (code - 'a'.toNat + 10)
  else if 'A'.toNat ≤ code ∧ code ≤ 'F'.toNat then some (code - 'A'.toNat + 10)
  else none

/-- The number that four hexadecimal digits spell. -/
def hexUnit? (a b c d : Char) : Option Nat := do
  let a ← hexDigit? a
  let b ← hexDigit? b
  let c ← hexDigit? c
  let d ← hexDigit? d
  return ((a * 16 + b) * 16 + c) * 16 + d

/-- The error for fewer than four characters after the mark of a code unit: the text ends early
unless the four bytes that were looked for are there. -/
def shortUnit (rest : List Char) : ReadError :=
  if rest.foldl (fun size c => size + c.utf8Size) 0 < 4 then .incomplete else .illFormed

/-- The character of a one-letter escape. -/
def escaped? (c : Char) : Option Char :=
  if c = '"' then some '"'
  else if c = '\\' then some '\\'
  else if c = '/' then some '/'
  else if c = 'b' then some '\x08'
  else if c = 'f' then some '\x0c'
  else if c = 'n' then some '\n'
  else if c = 'r' then some '\r'
  else if c = 't' then some '\t'
  else none

/-- The first code unit of a pair. -/
def isHighUnit (unit : Nat) : Bool := 0xD800 ≤ unit && unit ≤ 0xDBFF

/-- The second code unit of a pair. -/
def isLowUnit (unit : Nat) : Bool := 0xDC00 ≤ unit && unit ≤ 0xDFFF

/-- The code point of a pair of code units. -/
def ofPair (high low : Nat) : Nat := (high - 0xD800) * 0x400 + (low - 0xDC00) + 0x10000

/-- Read the rest of a string, after its opening quote, the characters so far in reverse. -/
def readString (reversed : List Char) : Reader String
  | [] => .error .incomplete
  | '"' :: rest => .ok (String.ofList reversed.reverse, rest)
  | '\\' :: 'u' :: a :: b :: c :: d :: rest =>
    match hexUnit? a b c d with
    | none => .error .illFormed
    | some unit =>
      if isHighUnit unit then
        -- The first half of a pair is a character only with its second half.
        match rest with
        | [] => .error .incomplete
        | ['\\'] => .error .incomplete
        | '\\' :: 'u' :: e :: f :: g :: h :: rest =>
          match hexUnit? e f g h with
          | none => .error .illFormed
          | some low =>
            if isLowUnit low then readString (Char.ofNat (ofPair unit low) :: reversed) rest
            else .error .illFormed
        | '\\' :: 'u' :: short => .error (shortUnit short)
        | _ => .error .illFormed
      else if isLowUnit unit then .error .illFormed
      else readString (Char.ofNat unit :: reversed) rest
  | '\\' :: 'u' :: short => .error (shortUnit short)
  | ['\\'] => .error .incomplete
  | '\\' :: c :: rest =>
    match escaped? c with
    | some c => readString (c :: reversed) rest
    | none => .error .illFormed
  | c :: rest => if c.toNat < 0x20 then .error .illFormed else readString (c :: reversed) rest

/-- Pass over the rest of a string whose content nobody needs, so halves of pairs may stand alone. -/
def skipString : List Char → Except ReadError (List Char)
  | [] => .error .incomplete
  | '"' :: rest => .ok rest
  | '\\' :: 'u' :: a :: b :: c :: d :: rest =>
    if (hexUnit? a b c d).isSome then skipString rest else .error .illFormed
  | '\\' :: 'u' :: short => .error (shortUnit short)
  | ['\\'] => .error .incomplete
  | '\\' :: c :: rest => if (escaped? c).isSome then skipString rest else .error .illFormed
  | c :: rest => if c.toNat < 0x20 then .error .illFormed else skipString rest

/-- A number as it is spelled: its sign, its digits before and after the point, its exponent. -/
structure Spelling where
  negative : Bool
  whole : List Char
  fraction : List Char
  exponent : Option (Bool × List Char)
  deriving DecidableEq

/-- The number that decimal digits spell. -/
def ofDigits (digits : List Char) : Nat :=
  digits.foldl (fun value digit => value * 10 + (digit.toNat - '0'.toNat)) 0

/-- Take the digits off the front of a text. -/
def takeDigits (text : List Char) : List Char × List Char :=
  (text.takeWhile Char.isDigit, text.dropWhile Char.isDigit)

/-- Take at least one digit off the front of a text. -/
def readDigits (text : List Char) : Except ReadError (List Char × List Char) :=
  match takeDigits text with
  | ([], []) => .error .incomplete
  | ([], _ :: _) => .error .illFormed
  | (digits, rest) => .ok (digits, rest)

/-- Read an optional exponent: its sign, true when negative, and its digits. -/
def readExponent (text : List Char) : Except ReadError (Option (Bool × List Char) × List Char) :=
  match text with
  | c :: rest =>
    if c = 'e' ∨ c = 'E' then do
      let (negative, rest) := match rest with
        | '+' :: rest => (false, rest)
        | '-' :: rest => (true, rest)
        | rest => (false, rest)
      let (digits, rest) ← readDigits rest
      return (some (negative, digits), rest)
    else .ok (none, text)
  | [] => .ok (none, [])

/-- Read an optional fraction: its digits. -/
def readFraction (text : List Char) : Except ReadError (List Char × List Char) :=
  match text with
  | '.' :: rest => readDigits rest
  | text => .ok ([], text)

/-- Read the whole part of a number, in which no digit may follow a leading zero. -/
def readWhole (text : List Char) : Except ReadError (List Char × List Char) := do
  let (digits, rest) ← readDigits text
  match digits with
  | '0' :: _ :: _ => .error .illFormed
  | digits => return (digits, rest)

/-- Read the spelling of a number. -/
def readSpelling (text : List Char) : Except ReadError (Spelling × List Char) := do
  let (negative, text) := match text with
    | '-' :: rest => (true, rest)
    | text => (false, text)
  let (whole, text) ← readWhole text
  let (fraction, text) ← readFraction text
  let (exponent, text) ← readExponent text
  return (⟨negative, whole, fraction, exponent⟩, text)

/-- Extend a significand by digits while it stays a 64-bit word; also give how many fitted. -/
def absorb (significand taken : Nat) : List Char → Nat × Nat
  | [] => (significand, taken)
  | digit :: rest =>
    let longer := significand * 10 + (digit.toNat - '0'.toNat)
    if longer < UInt64.size then absorb longer (taken + 1) rest else (significand, taken)

/-- The multiple of a power of two with 53 binary digits that is nearest to a number, which is how
a double holds it; halfway the even multiple counts. -/
def nearestDouble (value : Nat) : Nat :=
  -- A number of at most 53 binary digits is held as it is, with unit one.
  let unit := Nat.pow 2 (value.log2 - 52)
  let below := value / unit
  let excess := 2 * (value % unit)
  if excess < unit ∨ (excess = unit ∧ below % 2 = 0) then below * unit else (below + 1) * unit

/-- A spelling whose number exceeds all finite doubles. The number is the product of the
significand and a power of ten, where both factors and then the product are doubles. -/
def Spelling.isHuge (spelling : Spelling) : Bool :=
  let (significand, kept) := absorb 0 0 spelling.whole
  let (significand, fractional) := absorb significand 0 spelling.fraction
  let scale : Int := (spelling.whole.length - kept : Int) - fractional +
    (match spelling.exponent with
      | some (negative, digits) => if negative then -(ofDigits digits : Int) else ofDigits digits
      | none => 0)
  let product := fun (power : Nat) =>
    nearestDouble (nearestDouble significand * nearestDouble (Nat.pow 10 power))
  significand != 0 && 0 ≤ scale && (308 < scale || Nat.pow 2 1024 ≤ product scale.toNat)

/-- The natural number of a spelling, if it is one that fits a 64-bit word. -/
def Spelling.natural? (spelling : Spelling) : Option Nat :=
  if spelling.negative ∨ spelling.fraction ≠ [] ∨ spelling.exponent.isSome then none
  else
    let value := ofDigits spelling.whole
    if value < UInt64.size then some value else none

/-- Read a number, which must not be too large for a double; only natural ones have a value here. -/
def readNumber : Reader (Option Nat) := fun text => do
  let (spelling, rest) ← readSpelling text
  match spelling.natural? with
  | some value => return (some value, rest)
  | none => if spelling.isHuge then .error .illFormed else return (none, rest)

/-- Pass over a number whose value nobody needs; one that the end cuts short is ill-formed. -/
def skipNumber (text : List Char) : Except ReadError (List Char) :=
  match readSpelling text with
  | .ok (_, rest) => .ok rest
  | .error _ => .error .illFormed

end Json

end GuestBoundary
