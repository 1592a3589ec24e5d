import GuestBoundary.Json.Skip

/-! Reading records field by field: a record is an object, or an array of its fields in order. -/

namespace GuestBoundary

namespace Json

/-- The error for a value of another kind than the one asked for. A word, number or string is read
first, so that an error inside it is met before its kind is judged. -/
def otherKind (text : List Char) : ReadError :=
  let judge {α : Type} (read : Except ReadError α) : ReadError :=
    match read with
    | .ok _ => .wrongType
    | .error error => error
  match text with
  | [] => .incomplete
  | 'n' :: rest => judge (readWord ['u', 'l', 'l'] rest)
  | 't' :: rest => judge (readWord ['r', 'u', 'e'] rest)
  | 'f' :: rest => judge (readWord ['a', 'l', 's', 'e'] rest)
  | '"' :: rest => judge (readString [] rest)
  | '[' :: _ => .wrongType
  | '\x7b' :: _ => .wrongType
  | c :: rest => if c = '-' ∨ c.isDigit then judge (readNumber (c :: rest)) else .illFormed

/-- Read a boolean. -/
def readBool : Reader Bool := fun text =>
  match skipBlanks text with
  | 't' :: rest => do
    let (_, rest) ← readWord ['r', 'u', 'e'] rest
    return (true, rest)
  | 'f' :: rest => do
    let (_, rest) ← readWord ['a', 'l', 's', 'e'] rest
    return (false, rest)
  | text => .error (otherKind text)

/-- Read a text. -/
def readText : Reader String := fun text =>
  match skipBlanks text with
  | '"' :: rest => readString [] rest
  | text => .error (otherKind text)

/-- Read a natural number below a bound that no 64-bit word exceeds. -/
def readNatural (bound : Nat) : Reader Nat := fun text =>
  match skipBlanks text with
  | c :: rest =>
    if c = '-' ∨ c.isDigit then do
      match ← readNumber (c :: rest) with
      | (some value, rest) => if value < bound then return (value, rest) else .error .wrongType
      | (none, _) => .error .wrongType
    else .error (otherKind (c :: rest))
  | [] => .error .incomplete

/-- Read null as absence and anything else as a value. -/
def readOptional {α : Type} (read : Reader α) : Reader (Option α) := fun text =>
  match skipBlanks text with
  | 'n' :: rest => do
    let (_, rest) ← readWord ['u', 'l', 'l'] rest
    return (none, rest)
  | text => do
    let (value, rest) ← read text
    return (some value, rest)

/-- A field of a record: its name, and how its value changes a record that has all fields. -/
structure RecordField (ρ : Type) where
  name : String
  read : ρ → Reader ρ

/-- The field with a name whose value a reader reads and an update stores. -/
def RecordField.of {ρ α : Type} (name : String) (read : Reader α) (store : ρ → α → ρ) : RecordField ρ where
  name
  read := fun record text => do
    let (value, rest) ← read text
    return (store record value, rest)

/-- Read fields in order up to the end of an array, which may leave out fields from its end. -/
def readElements {ρ : Type} (first : Bool) (record : ρ) : List (RecordField ρ) → Reader ρ
  | [], text =>
    match skipBlanks text with
    | ']' :: rest => .ok (record, rest)
    | _ :: _ => .error .illFormed
    | [] => .error .incomplete
  | field :: fields, text =>
    match first, skipBlanks text with
    | _, [] => .error .incomplete
    | _, ']' :: rest => .ok (record, rest)
    | true, text => do
      let (record, rest) ← field.read record text
      readElements false record fields rest
    | false, ',' :: rest =>
      match skipBlanks rest with
      | [] => .error .incomplete
      | ']' :: _ => .error .illFormed
      | rest => do
        let (record, rest) ← field.read record rest
        readElements false record fields rest
    | false, _ => .error .illFormed

/-- Read the colon that separates a name from its value. -/
def readColon (text : List Char) : Except ReadError (List Char) :=
  match skipBlanks text with
  | ':' :: rest => .ok rest
  | _ :: _ => .error .illFormed
  | [] => .error .incomplete

/-- Find what comes next in an object: a name, whose opening quote is taken, or its end. -/
def nextMember (first : Bool) (text : List Char) : Except ReadError (Bool × List Char) :=
  match first, skipBlanks text with
  | _, [] => .error .incomplete
  | _, '\x7d' :: rest => .ok (false, rest)
  | true, '"' :: rest => .ok (true, rest)
  | true, _ => .error .illFormed
  | false, ',' :: rest =>
    match skipBlanks rest with
    | [] => .error .incomplete
    | '"' :: rest => .ok (true, rest)
    | _ => .error .illFormed
  | false, _ => .error .illFormed

/-- Read members up to the end of an object, at most as many as the bound. A name that is no
field's is passed over with its value; a field named a second time is an error at once. -/
def readMembers {ρ : Type} (fields : List (RecordField ρ)) :
    Nat → Bool → List String → ρ → Reader ρ
  | 0, _, _, _, _ => .error .incomplete
  | bound + 1, first, seen, record, text => do
    match ← nextMember first text with
    | (false, rest) => return (record, rest)
    | (true, text) =>
      let (name, text) ← readString [] text
      match fields.find? (fun field => field.name == name) with
      | some field =>
        if seen.contains name then .error .wrongType
        else do
          let text ← readColon text
          let (record, text) ← field.read record text
          readMembers fields bound false (name :: seen) record text
      | none => do
        let text ← skipValue (← readColon text)
        readMembers fields bound false seen record text

/-- Read a record, starting from the values its fields have when they are left out. -/
def readRecord {ρ : Type} (fields : List (RecordField ρ)) (defaults : ρ) : Reader ρ := fun text =>
  match skipBlanks text with
  | '[' :: rest => readElements true defaults fields rest
  -- Every member takes at least one character, so the length bounds their number.
  | '\x7b' :: rest => readMembers fields (rest.length + 1) true [] defaults rest
  | text => .error (otherKind text)

/-- Read a whole text, after which only blanks may stand. -/
def readAll {α : Type} (read : Reader α) (text : String) : Except ReadError α := do
  let (value, rest) ← read text.toList
  if skipBlanks rest = [] then return value else .error .illFormed

end Json

end GuestBoundary
