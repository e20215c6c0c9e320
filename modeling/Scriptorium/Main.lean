import Scriptorium.Setup
set_option autoImplicit false

/-!
# The command line

Sets up a workplace in the working directory.  No command is started from here: each one counts
as successful and without output, and is printed for the reader to run.
-/

namespace Scriptorium.CommandLine

/-- The name of the file of settings. -/
def settingsFile : String := ".env"

/-- The settings that are there. -/
def presentSettings : IO (Option String) := do
  try return some (← IO.FS.readFile settingsFile)
  catch _ => return none

/-- Writes settings that were not there; tells whether they can be written. -/
def storeSettings (text : String) : IO Bool := do
  try
    IO.FS.writeFile settingsFile text
    return true
  catch _ => return false

/-- Sets up a workplace, prints what was done, and gives the exit status. -/
def run : IO UInt32 := do
  let present ← presentSettings
  let writable ← match present with
    | some _ => pure true
    | none => storeSettings Setup.settingsText
  let (status, desk) := Setup.run { writable } { settings := present }
  IO.print desk.printed
  return status.toUInt32

end Scriptorium.CommandLine

/-- The command line. -/
def main : IO UInt32 := Scriptorium.CommandLine.run
