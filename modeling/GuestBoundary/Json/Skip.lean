import GuestBoundary.Json.Scan

/-! Passing over a JSON value that nobody needs: its form is checked, its content is not. -/

namespace GuestBoundary

namespace Json

/-- A bracket that is still open around the value being passed over. -/
inductive Open where
  | list
  | record
  deriving DecidableEq

/-- What must come next while values are passed over. -/
inductive Next where
  /-- A value. -/
  | value
  /-- The first member of the innermost bracket, or its end. -/
  | member
  /-- The end of the innermost bracket, or a comma and another member. -/
  | separator
  /-- The name of a record's member. -/
  | name

/-- What must come next once a value is complete. -/
def afterValue : List Open → Option Next
  | [] => none
  | _ :: _ => some .separator

/-- Pass over one token, giving the brackets open then, what must come next (none at the end of
the outermost value) and the rest of the text. -/
def skipToken (brackets : List Open) (next : Next) (text : List Char) :
    Except ReadError (List Open × Option Next × List Char) :=
  match next, brackets, skipBlanks text with
  | _, _, [] => .error .incomplete
  -- The innermost bracket closes before its first member or after any member.
  | .member, .list :: outer, ']' :: rest => .ok (outer, afterValue outer, rest)
  | .separator, .list :: outer, ']' :: rest => .ok (outer, afterValue outer, rest)
  | .member, .record :: outer, '}' :: rest => .ok (outer, afterValue outer, rest)
  | .separator, .record :: outer, '}' :: rest => .ok (outer, afterValue outer, rest)
  | .separator, .list :: _, ',' :: rest => .ok (brackets, some .value, rest)
  | .separator, .record :: _, ',' :: rest => .ok (brackets, some .name, rest)
  | .separator, _, _ => .error .illFormed
  -- The first member of a record starts with its name.
  | .member, .record :: _, text => .ok (brackets, some .name, text)
  | .name, _, '"' :: rest => do
    match skipBlanks (← skipString rest) with
    | ':' :: rest => return (brackets, some .value, rest)
    | _ :: _ => .error .illFormed
    | [] => .error .incomplete
  | .name, _, _ => .error .illFormed
  -- A value, or the first member of a list.
  | _, _, '[' :: rest => .ok (.list :: brackets, some .member, rest)
  | _, _, '\x7b' :: rest => .ok (.record :: brackets, some .member, rest)
  | _, _, '"' :: rest => return (brackets, afterValue brackets, ← skipString rest)
  | _, _, 'n' :: rest => do
    let (_, rest) ← readWord ['u', 'l', 'l'] rest
    return (brackets, afterValue brackets, rest)
  | _, _, 't' :: rest => do
    let (_, rest) ← readWord ['r', 'u', 'e'] rest
    return (brackets, afterValue brackets, rest)
  | _, _, 'f' :: rest => do
    let (_, rest) ← readWord ['a', 'l', 's', 'e'] rest
    return (brackets, afterValue brackets, rest)
  | _, _, c :: rest =>
    if c = '-' ∨ c.isDigit then return (brackets, afterValue brackets, ← skipNumber (c :: rest))
    else .error .illFormed

/-- Pass over tokens up to the end of the outermost value, at most as many as the bound. -/
def skipTokens : Nat → List Open → Next → List Char → Except ReadError (List Char)
  | 0, _, _, _ => .error .incomplete
  | bound + 1, brackets, next, text => do
    match ← skipToken brackets next text with
    | (_, none, rest) => return rest
    | (brackets, some next, rest) => skipTokens bound brackets next rest

/-- Pass over a value. Every token takes a character but the step to a record's first name, which
always follows its bracket, so twice the length bounds the tokens. -/
def skipValue (text : List Char) : Except ReadError (List Char) :=
  skipTokens (2 * text.length + 1) [] .value text

end Json

end GuestBoundary
