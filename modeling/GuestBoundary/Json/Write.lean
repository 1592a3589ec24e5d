/-! Writing JSON text without blanks. -/

namespace GuestBoundary

namespace Json

/-- One character inside a written string: only quotes, backslashes and controls are escaped. -/
def escape (c : Char) : List Char :=
  if c = '"' then ['\\', '"']
  else if c = '\\' then ['\\', '\\']
  else if c = '\x08' then ['\\', 'b']
  else if c = '\x0c' then ['\\', 'f']
  else if c = '\n' then ['\\', 'n']
  else if c = '\r' then ['\\', 'r']
  else if c = '\t' then ['\\', 't']
  else if c.toNat < 0x20 then
    ['\\', 'u', '0', '0', Nat.digitChar (c.toNat / 16), Nat.digitChar (c.toNat % 16)]
  else [c]

/-- A written string. -/
def writeText (text : String) : List Char := '"' :: text.toList.flatMap escape ++ ['"']

/-- A written boolean. -/
def writeBool (value : Bool) : List Char := (if value then "true" else "false").toList

/-- A written natural number. -/
def writeNatural (value : Nat) : List Char := Nat.toDigits 10 value

/-- A written value or, for none, null. -/
def writeOptional {α : Type} (write : α → List Char) : Option α → List Char
  | some value => write value
  | none => ['n', 'u', 'l', 'l']

/-- A written object, from its names and written values. -/
def writeObject (members : List (String × List Char)) : List Char :=
  let written := members.map fun (name, value) => writeText name ++ ':' :: value
  '\x7b' :: (written.intersperse [',']).flatten ++ ['\x7d']

end Json

end GuestBoundary
