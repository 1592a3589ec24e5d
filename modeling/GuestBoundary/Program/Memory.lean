import GuestBoundary.Program
import GuestBoundary.Region
import GuestBoundary.Text.Utf8

/-! Host access to guest memory, through the memory that the conventions name. -/

namespace GuestBoundary

/-- An exported memory that the calling context shows. -/
structure View where
  memory : String

namespace View

/-- Find the memory that the conventions name. -/
def resolve : Program View := do
  let conventions ← Program.conventions
  let name := conventions.memoryExport
  .ask (.memorySize name) fun
    | some _ => .done ⟨name⟩
    | none => .fail (.invalidModule (.memoryMissing name))

/-- The current size in bytes. -/
def size (view : View) : Program Nat :=
  .ask (.memorySize view.memory) fun size => .done (size.getD 0)

/-- Copy bytes out. -/
def read (view : View) (offset length : UInt32) : Program (List UInt8) :=
  .ask (.read view.memory offset length) Program.settle

/-- Overwrite bytes. -/
def write (view : View) (offset : UInt32) (bytes : List UInt8) : Program Unit :=
  .ask (.write view.memory offset bytes) Program.settle

/-- Read a little-endian word. -/
def readWord (view : View) (offset : UInt32) : Program UInt32 :=
  return wordOfBytes (← view.read offset 4)

/-- Overwrite a word, little-endian. -/
def writeWord (view : View) (offset word : UInt32) : Program Unit :=
  view.write offset (wordBytes word)

end View

namespace Program

/-- Copy the bytes of a span out of guest memory. -/
def readBytes (span : Span) : Program (List UInt8) := do
  let view ← View.resolve
  view.read span.pointer span.length

/-- The text of a span, broken sequences replaced. -/
def readString (span : Span) : Program String :=
  return Utf8.decode (← readBytes span)

end Program

end GuestBoundary
