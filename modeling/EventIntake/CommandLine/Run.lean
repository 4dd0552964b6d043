import EventIntake.Access.Credentials
import EventIntake.CommandLine.Command
import EventIntake.CommandLine.Report
import EventIntake.Event.SearchText

/-!
# Running commands

What a command does to the store, and what it reports or why it fails. A command sees the files it
names and what is drawn at random for it; apart from these it depends on the settings and the store
only.
-/

namespace EventIntake

/-- The contents of the files that can be read, by their paths. -/
abbrev Files := String → Option (List UInt8)

/-- What is drawn at random for a command. -/
structure Chance where
  /-- the key of a new project -/
  key : PublicKey
  /-- the draws that throttling takes -/
  draws : Draws

/-! ## Running -/

/-- The settings in a file. -/
def Settings.ofFile (files : Files) (path : String) : Except CommandError Settings :=
  match files path with
  | none => .error (.settingsMissing path)
  | some bytes =>
    match Text.Utf8.decode? bytes with
    | none => .error (.settings .unreadable)
    | some cs =>
      match Settings.ofText cs with
      | .ok s => .ok s
      | .error e => .error (.settings e)

/-- The greatest number of milliseconds that a writer can wait. -/
def DatabaseSettings.longestTimeout : Nat := Nat.pow 2 31 - 1

/-- Whether a store can be opened so. -/
def DatabaseSettings.usable (d : DatabaseSettings) : Bool :=
  d.busyTimeout ≤ longestTimeout

/-- The text that is appended. -/
def AppendInput.searchText (files : Files) : AppendInput → Except CommandError (List Char)
  | .text s => .ok s.toList
  | .eventFile path =>
    match files path with
    | none => .error (.eventMissing path)
    | some bytes =>
      match Event.ofBytes bytes with
      | .error f => .error (.event f)
      | .ok e => .ok e.searchText

/-- What a simulation is run on if no issue is named. -/
def SeedOptions.simulation : SeedOptions := ⟨"Simulation", "simulation", 0, 0, true, "Simulated issue"⟩

namespace Settings

/-- Authenticates an event. The key is looked for in the query and the header unless it is given. -/
def decide (settings : Settings) (draws : Draws) (options : ResolveOptions) (store : Store) :
    Except CommandError Report :=
  if !settings.access.usable then .error .unusableSettings
  else
    let credentials : Credentials :=
      ⟨options.query.map String.toList, options.header.map String.toList, none⟩
    let key := options.key <|> credentials.key?.map String.ofList
    let a := settings.access.authenticate store.source [] options.projectId (key.getD "") draws
    match a.result with
    | .ok d => .ok (.decided d)
    | .error e => .error (.source e)

/-- Appends to an issue. -/
def append (settings : Settings) (files : Files) (issueId : Nat) (input : AppendInput)
    (store : Store) : Except CommandError Report × Store :=
  match input.searchText files with
  | .error e => (.error e, store)
  | .ok text =>
    let a := store.append settings.search.appending issueId text
    match a.result with
    | .error e => (.error (.store e), a.store)
    | .ok none => (.error (.unknownIssue issueId), a.store)
    | .ok (some r) => (.ok (.appended issueId r), a.store)

/-- Simulates workers that append to an issue. -/
def simulate (settings : Settings) (issueId workers events : Nat) (store : Store) :
    Except CommandError Report × Store :=
  match Simulation.run settings.search.appending issueId workers events store with
  | (.error e, s) => (.error (.store e), s)
  | (.ok none, s) => (.error (.unknownIssue issueId), s)
  | (.ok (some r), s) => (.ok (.simulated r), s)

end Settings

/-- Runs a command, and gives the store after it. -/
def Command.run (settings : Settings) (files : Files) (chance : Chance) (c : Command) (store : Store) :
    Except CommandError Report × Store :=
  if !settings.database.usable then (.error .unusableSettings, store)
  else
    match c with
    | .createStore => (.ok .done, store)
    | .seed options =>
      match store.seed options chance.key with
      | (.error e, s) => (.error (.store e), s)
      | (.ok rows, s) => (.ok (.seeded rows), s)
    | .resolve options => (settings.decide chance.draws options store, store)
    | .append issueId input => settings.append files issueId input store
    | .simulate (some issueId) workers events => settings.simulate issueId workers events store
    | .simulate none workers events =>
      match store.seed .simulation chance.key with
      | (.error e, s) => (.error (.store e), s)
      | (.ok rows, s) => settings.simulate rows.issueId workers events s

end EventIntake
