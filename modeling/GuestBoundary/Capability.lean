import GuestBoundary.Program.Transfer
import GuestBoundary.Registry
import GuestBoundary.Text.Uppercase

/-! The standard capabilities: logging, conversation and a fixed text, in two spellings of names. -/

namespace GuestBoundary

namespace Capability

/-- The status that reports success. -/
def statusOk : List Value := [.i32 0]

/-- The text that is served where none is given. -/
def defaultText : String := "this is a string coming from the host"

/-- Log the text of a span of the caller. -/
def logText (span : Span) : Program Unit := do
  Program.log (← Program.readString span)

/-- Answer the text of a span through two slots of the caller. -/
def talk (respond : String → String) (span : Span) (pointerSlot lengthSlot : UInt32) :
    Program Unit := do
  let request ← Program.readString span
  let _ ← Program.writeOutSlots (Utf8.encode (respond request)) pointerSlot lengthSlot
  return ()

/-- The low words of arguments. A function is only entered with as many arguments as it declares. -/
def words (arguments : List Value) (index : Nat) : UInt32 := (arguments.map Value.low).getD index 0

/-- The span in the first two arguments. -/
def spanOf (arguments : List Value) : Span := ⟨words arguments 0, words arguments 1⟩

/-- Log a text. -/
def logString (space : String) : HostFunction where
  space
  name := "host_log_string"
  signature := .words 2 0
  body := fun arguments => do
    logText (spanOf arguments)
    return []

/-- Log a word in decimal. -/
def logWord (space : String) : HostFunction where
  space
  name := "host_log_uint32"
  signature := .words 1 0
  body := fun arguments => do
    Program.log (Nat.repr (words arguments 0).toNat)
    return []

/-- Answer a text. -/
def talkPlain (respond : String → String) (space : String) : HostFunction where
  space
  name := "host_talk"
  signature := .words 4 0
  body := fun arguments => do
    talk respond (spanOf arguments) (words arguments 2) (words arguments 3)
    return []

/-- Serve a fixed text. -/
def getString (text : String) (space : String) : HostFunction where
  space
  name := "host_get_string"
  signature := .words 2 0
  body := fun arguments => do
    let _ ← Program.writeOutSlots (Utf8.encode text) (words arguments 0) (words arguments 1)
    return []

/-- Log a text and report success. -/
def printString (space : String) : HostFunction where
  space
  name := "hostPrintString"
  signature := .words 2 1
  body := fun arguments => do
    logText (spanOf arguments)
    return statusOk

/-- Answer a text and report success. -/
def talkStatus (respond : String → String) (space : String) : HostFunction where
  space
  name := "hostTalk"
  signature := .words 4 1
  body := fun arguments => do
    talk respond (spanOf arguments) (words arguments 2) (words arguments 3)
    return statusOk

/-- The logging capabilities, in order of registration. -/
def logging (space : String) : List HostFunction := [logString space, logWord space]

/-- The capabilities that report a status, in order of registration. -/
def withStatus (respond : String → String) (space : String) : List HostFunction :=
  [printString space, talkStatus respond space]

/-- All capabilities as they are by default, in order of registration. -/
def standard (space : String) : List HostFunction :=
  logging space ++ [talkPlain Uppercase.ofText space, getString defaultText space] ++
    withStatus Uppercase.ofText space

/-- No two standard capabilities have the same name. -/
theorem standard_apart (space : String) : (standard space).Pairwise HostFunction.Apart := by
  have apart : ((standard space).map (·.name)).Nodup := by
    change ["host_log_string", "host_log_uint32", "host_talk", "host_get_string", "hostPrintString",
      "hostTalk"].Nodup
    decide
  exact (List.pairwise_map.mp apart).imp fun differ same => differ same.2

/-- The registry of the standard capabilities. -/
def registry (space : String) : Registry := ⟨standard space, standard_apart space⟩

end Capability

end GuestBoundary
