import GuestBoundary.Text.Unprinted

/-! Quoted text in debugging output: escapes for quotes, backslashes and what has no printed form. -/

namespace GuestBoundary

namespace Quoted

/-- One character inside quotes. -/
def character (c : Char) : List Char :=
  if c = '\x00' then ['\\', '0']
  else if c = '\t' then ['\\', 't']
  else if c = '\r' then ['\\', 'r']
  else if c = '\n' then ['\\', 'n']
  else if c = '\\' then ['\\', '\\']
  else if c = '"' then ['\\', '"']
  -- Anything else that cannot be seen is written as its code point.
  else if isUnprinted c then ['\\', 'u', '\x7b'] ++ Nat.toDigits 16 c.toNat ++ ['\x7d']
  else [c]

/-- A text between quotes. -/
def ofText (text : String) : String :=
  String.ofList ('"' :: text.toList.flatMap character ++ ['"'])

end Quoted

end GuestBoundary
