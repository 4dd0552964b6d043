import EventIntake.CommandLine.Options
import EventIntake.Store.Seed

/-!
# Commands

What the program can be told to do, and how it is told so.
-/

namespace EventIntake

/-- What an event is authenticated by. -/
structure ResolveOptions where
  projectId : Nat
  key : Option String
  /-- the query of the request, which may hold the key -/
  query : Option String
  /-- the header of the request, which may hold the key -/
  header : Option String
  deriving DecidableEq, Repr

/-- What is appended to an issue. -/
inductive AppendInput
  | text (s : String)
  /-- the search text of the event in a file -/
  | eventFile (path : String)
  deriving DecidableEq, Repr

/-- What the program can be told to do. -/
inductive Command
  | createStore
  | seed (options : SeedOptions)
  | resolve (options : ResolveOptions)
  | append (issueId : Nat) (input : AppendInput)
  | simulate (issueId : Option Nat) (workers eventsPerWorker : Nat)
  deriving DecidableEq, Repr

/-- What the program is told. -/
structure Invocation where
  /-- the path of the settings -/
  settingsPath : String
  command : Command
  deriving DecidableEq, Repr

namespace CommandLine

/-- Where the settings usually are. -/
def standardSettingsPath : String := "ingest.yaml"

/-- The name of the command that shows help. -/
def helpCommand : String := "help"

/-- The names of the commands. -/
def commandNames : List String :=
  ["init-db", "seed", "resolve", "append", "simulate", helpCommand]

/-- What may be given before a command. -/
def mainGrammar : Grammar :=
  ⟨[⟨"config", some 'c', .path⟩, .help], commandNames⟩

/-- The options of a command. -/
def optionsOf (command : String) : List OptionSpec :=
  match command with
  | "seed" => [⟨"organization", none, .text⟩, ⟨"project", none, .text⟩,
      ⟨"organization-throttle-rate", none, .percent⟩, ⟨"project-throttle-rate", none, .percent⟩,
      ⟨"not-accepting-events", none, .flag⟩, ⟨"issue-title", none, .text⟩]
  | "resolve" => [⟨"project-id", none, .count⟩, ⟨"key", none, .text⟩, ⟨"query", none, .text⟩,
      ⟨"auth-header", none, .text⟩]
  | "append" => [⟨"issue-id", none, .count⟩, ⟨"text", none, .text⟩, ⟨"event", none, .path⟩]
  | "simulate" => [⟨"issue-id", none, .count⟩, ⟨"workers", none, .count⟩,
      ⟨"events-per-worker", none, .count⟩]
  | _ => []

/-- The letter and name of an option, in a list of options. -/
def OptionSpec.usage (o : OptionSpec) : String :=
  let letter := match o.letter with
    | some c => "-" ++ String.singleton c ++ ", "
    | none => "    "
  "  " ++ letter ++ "--" ++ o.name ++ (if o.kind.takesValue then " <VALUE>" else "")

/-- The help of the program: its options, and its commands with theirs. -/
def help : String :=
  let listed (options : List OptionSpec) := options.map OptionSpec.usage
  "\n".intercalate (
    ["Event ingest data layer", "", "Usage: ingest [OPTIONS] <COMMAND>", "", "Options:"] ++
    listed mainGrammar.options ++
    commandNames.flatMap fun name => ["", name ++ ":"] ++ listed (optionsOf name))

/-- The value of an option that is a number. -/
def number? (p : Progress) (name : String) : Option Nat :=
  (p.value? name).bind countOf?

/-- The value of an option that is a rate. -/
def rate (p : Progress) (name : String) (default : UInt8) : UInt8 :=
  (((p.value? name).bind percentOf?).map Nat.toUInt8).getD default

/-- The command that some options of it give. -/
def commandOf (name : String) (p : Progress) : Except UsageError Command :=
  match name with
  | "init-db" => .ok .createStore
  | "seed" =>
    let d := SeedOptions.standard
    .ok (.seed {
      organization := (p.value? "organization").getD d.organization
      project := (p.value? "project").getD d.project
      organizationRate := rate p "organization-throttle-rate" d.organizationRate
      projectRate := rate p "project-throttle-rate" d.projectRate
      accepting := (p.value? "not-accepting-events").isNone
      issueTitle := (p.value? "issue-title").getD d.issueTitle })
  | "resolve" =>
    match number? p "project-id" with
    | some id => .ok (.resolve ⟨id, p.value? "key", p.value? "query", p.value? "auth-header"⟩)
    | none => .error .argumentMissing
  | "append" =>
    match number? p "issue-id", p.value? "text", p.value? "event" with
    | _, some _, some _ => .error .conflict
    | some id, some text, none => .ok (.append id (.text text))
    | some id, none, some path => .ok (.append id (.eventFile path))
    | _, _, _ => .error .argumentMissing
  | "simulate" =>
    .ok (.simulate (number? p "issue-id") ((number? p "workers").getD 8)
      ((number? p "events-per-worker").getD 100))
  | _ => .error .commandUnknown

/-- Reads the arguments of a command. -/
def readCommand (name : String) (arguments : List String) : Except UsageError Command := do
  let (p, _) ← Progress.start.readAll ⟨optionsOf name ++ [.help], []⟩ arguments
  commandOf name (← p.settle)

/-- What comes of asking for help about some commands, of which each is part of the one before. -/
def helpAbout : List String → UsageError
  | [] => .helpWanted
  | [name] => if commandNames.contains name then .helpWanted else .commandUnknown
  | _ => .commandUnknown

/-- Reads the arguments of the program. -/
def read (arguments : List String) : Except UsageError Invocation := do
  let (p, command) ← Progress.start.readAll mainGrammar arguments
  match command with
  | some (name, rest) =>
    if name = helpCommand then throw (helpAbout rest)
    let command ← readCommand name rest
    let p ← p.settle
    return ⟨(p.value? "config").getD standardSettingsPath, command⟩
  | none =>
    let p ← p.settle
    throw (if p.given.isEmpty then .nothingGiven else .commandMissing)

end CommandLine

end EventIntake
