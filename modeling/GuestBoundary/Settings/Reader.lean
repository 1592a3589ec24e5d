import GuestBoundary.Json.Record
import GuestBoundary.Settings

/-! Settings and conventions read from JSON text; a field that is left out has its default. -/

namespace GuestBoundary

open Json

/-- The fields of conventions, in order. -/
def Conventions.fields : List (RecordField Conventions) :=
  [ .of "namespace" readText fun conventions space => { conventions with space },
    .of "memory_export" readText fun conventions memoryExport => { conventions with memoryExport },
    .of "alloc_export" readText fun conventions allocExport => { conventions with allocExport },
    .of "free_export" (readOptional readText) fun conventions freeExport =>
      { conventions with freeExport } ]

/-- Read conventions. -/
def Conventions.read : Reader Conventions := readRecord fields .default

/-- Read a 32-bit word. -/
def readWord32 : Reader UInt32 := fun text => do
  let (value, rest) ← readNatural UInt32.size text
  return (UInt32.ofNat value, rest)

/-- Read a 64-bit word. -/
def readWord64 : Reader UInt64 := fun text => do
  let (value, rest) ← readNatural UInt64.size text
  return (UInt64.ofNat value, rest)

/-- The fields of settings, in order. -/
def Settings.fields : List (RecordField Settings) :=
  [ .of "max_memory_pages" readWord32 fun settings maxMemoryPages =>
      { settings with maxMemoryPages },
    .of "fuel_limit" (readOptional readWord64) fun settings fuelLimit =>
      { settings with fuelLimit },
    .of "enable_guest_logs" readBool fun settings enableGuestLogs =>
      { settings with enableGuestLogs },
    .of "max_log_lines" readWord64 fun settings maxLogLines => { settings with maxLogLines },
    .of "wasi" readBool fun settings wasi => { settings with wasi },
    .of "wasi_inherit_stdio" readBool fun settings wasiInheritStdio =>
      { settings with wasiInheritStdio },
    .of "conventions" Conventions.read fun settings conventions =>
      { settings with conventions } ]

/-- Read settings. -/
def Settings.read : Reader Settings := readRecord fields .default

/-- The conventions in a whole text. -/
def Conventions.ofText (text : String) : Except ReadError Conventions := readAll read text

/-- The settings in a whole text. -/
def Settings.ofText (text : String) : Except ReadError Settings := readAll read text

end GuestBoundary
