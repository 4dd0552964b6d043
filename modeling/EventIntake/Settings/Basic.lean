import EventIntake.Access.Settings
import EventIntake.Analysis.Profile
import EventIntake.Store.Append

/-!
# Settings

Everything that a deployment decides: where the store is, where measurements and failures are
reported, and how events are authenticated and indexed. Settings that cannot work are refused, and
the first fault is the one reported.
-/

namespace EventIntake

/-- Where measurements go. -/
structure MetricsSettings where
  host : String
  port : Nat
  /-- what the name of every metric begins with -/
  namePrefix : String
  deriving DecidableEq, Repr, Inhabited

/-- What the names of metrics usually begin with. -/
def MetricsSettings.standardPrefix : String := "ingest"

/-- What is logged, and where failures are reported. -/
structure LoggingSettings where
  /-- the address that failures are reported to, if they are -/
  reportTo : Option String
  level : String
  deriving DecidableEq, Repr, Inhabited

/-- The usual level of logging. -/
def LoggingSettings.standardLevel : String := "info"

/-- Where the store is, and how it is opened. -/
structure DatabaseSettings where
  path : String
  /-- how many milliseconds a writer waits for its turn -/
  busyTimeout : Nat
  /-- whether readers see the store while it is written -/
  writeAhead : Bool
  deriving DecidableEq, Repr, Inhabited

/-- The usual settings of a store at a path. -/
def DatabaseSettings.standard (path : String) : DatabaseSettings := ⟨path, 5000, true⟩

/-- How issues are indexed. -/
structure SearchSettings where
  maxLexemes : Nat
  configuration : Configuration
  limits : IndexLimits
  deriving DecidableEq, Repr

/-- The usual settings of the index. -/
def SearchSettings.standard : SearchSettings := ⟨standardMaxLexemes, .standard, .standard⟩

/-- How texts are appended to issues. -/
def SearchSettings.appending (s : SearchSettings) : AppendSettings :=
  ⟨s.maxLexemes, s.configuration.profile, s.limits⟩

/-- Everything that a deployment decides. -/
structure Settings where
  metrics : Option MetricsSettings
  logging : Option LoggingSettings
  database : DatabaseSettings
  access : AccessSettings
  search : SearchSettings
  deriving DecidableEq, Repr

/-! ## Faults -/

/-- Which setting of the index is zero. -/
inductive SearchSettings.Fault
  | noLexemes
  | noInput
  | noVector
  deriving DecidableEq, Repr

/-- What is said about a fault. -/
def SearchSettings.Fault.message : SearchSettings.Fault → String
  | noLexemes => "max_lexemes must be greater than 0"
  | noInput => "max_input_bytes must be greater than 0"
  | noVector => "max_vector_bytes must be greater than 0"

/-- The first fault of the settings. -/
def SearchSettings.fault? (s : SearchSettings) : Option SearchSettings.Fault :=
  if s.maxLexemes = 0 then some .noLexemes
  else if s.limits.maxInputBytes = 0 then some .noInput
  else if s.limits.maxVectorBytes = 0 then some .noVector
  else none

namespace Settings

/-- Why settings are refused. -/
inductive Fault
  /-- the path of the store is empty -/
  | noPath
  | access (fault : AccessSettings.Fault)
  | search (fault : SearchSettings.Fault)
  deriving DecidableEq, Repr

/-- What is said about a fault. -/
def Fault.message : Fault → String
  | noPath => "invalid database config: database path must not be empty"
  | access fault => "invalid auth config: " ++ fault.message
  | search fault => "invalid search_index config: " ++ fault.message

/-- The first fault of the settings. -/
def fault? (s : Settings) : Option Fault :=
  if s.database.path.isEmpty then some .noPath
  else (s.access.fault?.map .access) <|> (s.search.fault?.map .search)

end Settings

end EventIntake
