import GuestBoundary.Json.Write
import GuestBoundary.Settings
import GuestBoundary.Text.Quoted

/-! Settings and conventions written as JSON text, and shown in debugging output. -/

namespace GuestBoundary

open Json

/-- Conventions as JSON characters. -/
def Conventions.write (conventions : Conventions) : List Char :=
  writeObject
    [ ("namespace", writeText conventions.space),
      ("memory_export", writeText conventions.memoryExport),
      ("alloc_export", writeText conventions.allocExport),
      ("free_export", writeOptional writeText conventions.freeExport) ]

/-- Conventions as JSON text. -/
def Conventions.json (conventions : Conventions) : String := String.ofList conventions.write

/-- Settings as JSON text. -/
def Settings.json (settings : Settings) : String :=
  String.ofList (writeObject
    [ ("max_memory_pages", writeNatural settings.maxMemoryPages.toNat),
      ("fuel_limit", writeOptional (fun fuel => writeNatural fuel.toNat) settings.fuelLimit),
      ("enable_guest_logs", writeBool settings.enableGuestLogs),
      ("max_log_lines", writeNatural settings.maxLogLines.toNat),
      ("wasi", writeBool settings.wasi),
      ("wasi_inherit_stdio", writeBool settings.wasiInheritStdio),
      ("conventions", settings.conventions.write) ])

/-- A structure in debugging output, from its name and shown fields. -/
def debugFields (name : String) (fields : List (String × String)) : String :=
  let shown := fields.map fun (field, value) => field ++ ": " ++ value
  name ++ " \x7b " ++ String.intercalate ", " shown ++ " \x7d"

/-- An optional value in debugging output. -/
def debugOptional {α : Type} (debug : α → String) : Option α → String
  | some value => "Some(" ++ debug value ++ ")"
  | none => "None"

/-- A boolean in debugging output. -/
def debugBool (value : Bool) : String := if value then "true" else "false"

/-- Conventions in debugging output. -/
def Conventions.debug (conventions : Conventions) : String :=
  debugFields "AbiConventions"
    [ ("namespace", Quoted.ofText conventions.space),
      ("memory_export", Quoted.ofText conventions.memoryExport),
      ("alloc_export", Quoted.ofText conventions.allocExport),
      ("free_export", debugOptional Quoted.ofText conventions.freeExport) ]

/-- Settings in debugging output. -/
def Settings.debug (settings : Settings) : String :=
  debugFields "SandboxConfig"
    [ ("max_memory_pages", Nat.repr settings.maxMemoryPages.toNat),
      ("fuel_limit", debugOptional (fun fuel => Nat.repr fuel.toNat) settings.fuelLimit),
      ("enable_guest_logs", debugBool settings.enableGuestLogs),
      ("max_log_lines", Nat.repr settings.maxLogLines.toNat),
      ("wasi", debugBool settings.wasi),
      ("wasi_inherit_stdio", debugBool settings.wasiInheritStdio),
      ("conventions", settings.conventions.debug) ]

end GuestBoundary
