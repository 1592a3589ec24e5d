import GuestBoundary.Settings

/-! The guest log: lines that host functions record for one instance, up to a limit. -/

namespace GuestBoundary

/-- A recorded line: the host function that received the message, and the message. -/
structure LogLine where
  function : String
  message : String
  deriving DecidableEq

/-- The log of one instance. -/
structure GuestLog where
  recording : Bool
  capacity : Nat
  lines : Array LogLine

namespace GuestLog

/-- The empty log of a new instance. -/
def new (settings : Settings) : GuestLog :=
  ⟨settings.enableGuestLogs, settings.maxLogLines.toNat, #[]⟩

/-- Record a line, unless recording is off or the log is full. -/
def add (log : GuestLog) (line : LogLine) : GuestLog :=
  if log.recording && log.lines.size < log.capacity then { log with lines := log.lines.push line }
  else log

/-- The number of recorded lines. -/
def size (log : GuestLog) : Nat := log.lines.size

end GuestLog

end GuestBoundary
