import EventIntake.CommandLine.Run
import EventIntake.Json.Printer
import EventIntake.Store.Snapshot

/-!
# The program

Reads the arguments, the settings, the store and the event it is given, runs the command, keeps the
store, and prints the report. The decisions are those of the library.
-/

namespace EventIntake.Program

/-- The bytes of a file that can be read. -/
def contents? (path : String) : IO (Option (List UInt8)) := do
  try
    return some (← IO.FS.readBinFile path).toList
  catch _ =>
    return none

/-- The store at a path, which has no rows if there is no file yet. -/
def storeAt? (path : String) : IO (Option Store) := do
  match ← contents? path with
  | none => return some .empty
  | some bytes => return (Json.Value.ofBytes bytes).toOption.bind Store.ofJson?

/-- What a command takes from chance. -/
def chance : IO Chance := do
  let key ← IO.getRandomBytes 16
  let draws ← (List.replicate 16 ()).mapM fun _ => IO.rand 0 (UInt32.size - 1)
  return ⟨.ofRandomBytes key.toList, draws.map Nat.toUInt32⟩

/-- Says what failed, and gives the exit code. -/
def fail (message : String) (code : UInt8) : IO UInt32 := do
  IO.eprintln ("error: " ++ message)
  return code.toUInt32

/-- The file with the event that a command names. -/
def eventFile? : Command → Option String
  | .append _ (.eventFile path) => some path
  | _ => none

/-- Runs a command. -/
def execute (i : Invocation) : IO UInt32 := do
  let text ← contents? i.settingsPath
  match Settings.ofFile (fun _ => text) i.settingsPath with
  | .error e => fail e.message e.exitCode
  | .ok settings =>
    match ← storeAt? settings.database.path with
    | none => fail "database error: file is not a database" 1
    | some store =>
      let event ← match eventFile? i.command with
        | some path => contents? path
        | none => pure none
      let (result, store) := i.command.run settings (fun _ => event) (← chance) store
      IO.FS.writeFile settings.database.path store.toJson.compact
      match result with
      | .error e => fail e.message e.exitCode
      | .ok report =>
        if let some v := report.toJson? then IO.println v.pretty
        return 0

end EventIntake.Program

open EventIntake in
/-- Runs the program with some arguments. -/
def main (arguments : List String) : IO UInt32 := do
  match CommandLine.read arguments with
  | .ok i => Program.execute i
  | .error .helpWanted =>
    IO.println CommandLine.help
    return CommandLine.UsageError.helpWanted.exitCode.toUInt32
  | .error e =>
    IO.eprintln ("error: " ++ e.message ++ "\n\n" ++ CommandLine.help)
    return e.exitCode.toUInt32
