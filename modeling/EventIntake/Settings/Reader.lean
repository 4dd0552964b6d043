import EventIntake.Settings.Basic
import EventIntake.Yaml.Meaning

/-!
# Reading settings

Settings are written as a YAML mapping of sections. Members with other names are passed over, and no
member may be there twice. Where a section is read member by member, a text may be any scalar; where
its members are collected first, which is said of each below, a scalar that stands for a number or a
null is no text.
-/

namespace EventIntake.Settings

open Yaml (Meaning Node)

/-! ## Sections -/

/-- A section: its members by their names, in order. -/
abbrev Section := List (List Char × Node)

/-- The section that a node is; a null is an empty one. -/
def section? : Node → Option Section
  | .mapping entries => entries.mapM fun (key, value) => key.text?.map (·, value)
  | .scalar s => if s.meaning = .null then some [] else none
  | .sequence _ => none

/-- The member with a name, if it is there. -/
def member? (s : Section) (name : String) : Option (Option Node) :=
  match s.filter (·.1 == name.toList) with
  | [] => some none
  | [(_, value)] => some (some value)
  | _ => none

/-- Reads the member with a name, if it is there. -/
def memberOr {α : Type} (s : Section) (name : String) (default : α) (read : Node → Option α) :
    Option α := do
  match ← member? s name with
  | some value => read value
  | none => return default

/-! ## Members that are read at once -/

/-- A text; any scalar is one. -/
def anyText? (n : Node) : Option String :=
  n.text?.map String.ofList

/-- A number of 64 bits. -/
def count? (n : Node) : Option Nat := do
  match ← n.meaning? with
  | .integer v => if 0 ≤ v then some v.toNat else none
  | _ => none

/-- A number of 64 bits without a minus sign. -/
def plainCount? (n : Node) : Option Nat := do
  if (← n.text?).head? = some '-' then none else count? n

/-- A truth value. -/
def switch? (n : Node) : Option Bool := do
  match ← n.meaning? with
  | .bool b => some b
  | _ => none

/-! ## Members that are collected -/

/-- How deep collections may be nested where members are collected. -/
def nestingLimit : Nat := 128

mutual

/-- Whether a node can be collected: it is not nested too deep, and has no numbers of more than 64
bits. -/
def collectable (depth : Nat) : Node → Bool
  | .scalar s => s.meaning != .wide
  | .sequence items => 0 < depth && collectableItems (depth - 1) items
  | .mapping entries => 0 < depth && collectableEntries (depth - 1) entries

/-- Whether some nodes can be collected. -/
def collectableItems (depth : Nat) : List Node → Bool
  | [] => true
  | n :: rest => collectable depth n && collectableItems depth rest

/-- Whether some members can be collected. -/
def collectableEntries (depth : Nat) : List (Node × Node) → Bool
  | [] => true
  | (key, value) :: rest =>
    collectable depth key && collectable depth value && collectableEntries depth rest

end

/-- Whether all members of a section can be collected, except those with some names. -/
def collects (s : Section) (except : List String) (depth : Nat) : Bool :=
  s.all fun (name, value) => except.contains (String.ofList name) || collectable depth value

/-- A text. -/
def text? (n : Node) : Option String := do
  match ← n.meaning? with
  | .text cs => some (String.ofList cs)
  | _ => none

/-- A text that may be null. -/
def optionalText? (n : Node) : Option (Option String) := do
  match ← n.meaning? with
  | .null => some none
  | .text cs => some (some (String.ofList cs))
  | _ => none

/-- The members of a record that is collected: they have names, or stand in a sequence in the order
of these names. -/
def record? (names : List String) : Node → Option Section
  | .mapping entries => entries.mapM fun (key, value) => do
    match ← key.meaning? with
    | .text name => some (name, value)
    | .integer i =>
      if i < 0 then none else some (((names[i.toNat]?).map String.toList).getD [], value)
    | _ => none
  | .sequence items =>
    if items.length ≤ names.length then some ((names.map String.toList).zip items) else none
  | .scalar _ => none

/-! ## The sections -/

/-- The settings of metrics that a node describes. -/
def metrics? (n : Node) : Option MetricsSettings := do
  let s ← record? ["statsd_host", "statsd_port", "prefix"] n
  let host ← (← member? s "statsd_host").bind text?
  let port ← ((← member? s "statsd_port").bind count?).filter (· < UInt16.size)
  return ⟨host, port, ← memberOr s "prefix" MetricsSettings.standardPrefix text?⟩

/-- The settings of logging that a node describes. In a sequence the address comes first and is not
left out. -/
def logging? (n : Node) : Option LoggingSettings := do
  match n with
  | .sequence [] => none
  | _ =>
    let s ← record? ["sentry_dsn", "level"] n
    return ⟨← memberOr s "sentry_dsn" none optionalText?,
      ← memberOr s "level" LoggingSettings.standardLevel text?⟩

/-- Reads a section that may be null. -/
def optional? {α : Type} (read : Node → Option α) (n : Node) : Option (Option α) :=
  if n.meaning? = some .null then some none else some <$> read n

/-- The settings of the store that a node describes. All but the path are collected. -/
def database? (n : Node) : Option DatabaseSettings := do
  let s ← section? n
  guard (collects s ["path"] (nestingLimit - 2))
  let d := DatabaseSettings.standard (← (← member? s "path").bind anyText?)
  return ⟨d.path, ← memberOr s "busy_timeout_ms" d.busyTimeout count?,
    ← memberOr s "wal" d.writeAhead switch?⟩

/-- The settings of the cache that a node describes. -/
def cache? (n : Node) : Option CacheSettings := do
  let s ← section? n
  let d := CacheSettings.standard
  return ⟨← memberOr s "capacity" d.capacity plainCount?,
    ← memberOr s "ttl_secs" d.lifetime plainCount?⟩

/-- The settings of authentication that a node describes. -/
def access? (n : Node) : Option AccessSettings := do
  let s ← section? n
  let d := AccessSettings.standard
  return ⟨← memberOr s "maintenance_freeze" d.frozen switch?,
    ← memberOr s "throttle_retry_after_secs" d.retryAfter plainCount?,
    ← memberOr s "negative_cache" d.cache cache?⟩

/-- The settings of the index that a node describes. The limits are collected. -/
def search? (n : Node) : Option SearchSettings := do
  let s ← section? n
  guard (collects s ["max_lexemes", "text_search_config"] (nestingLimit - 2))
  let d := SearchSettings.standard
  let limits := d.limits
  return ⟨← memberOr s "max_lexemes" d.maxLexemes plainCount?,
    ← memberOr s "text_search_config" d.configuration fun n =>
      (anyText? n).bind Configuration.ofName?,
    ⟨← memberOr s "max_input_bytes" limits.maxInputBytes count?,
      ← memberOr s "max_vector_bytes" limits.maxVectorBytes count?,
      ← memberOr s "truncation" limits.truncation fun n => (text? n).bind TruncationOrder.ofName?⟩⟩

/-- The settings that a node describes. The sections of metrics and logging are collected. -/
def ofNode? (n : Node) : Option Settings := do
  let s ← section? n
  guard (collects s ["database", "auth", "search_index"] (nestingLimit - 1))
  return {
    metrics := ← memberOr s "metrics" none (optional? metrics?)
    logging := ← memberOr s "logging" none (optional? logging?)
    database := ← (← member? s "database").bind database?
    access := ← memberOr s "auth" .standard access?
    search := ← memberOr s "search_index" .standard search? }

/-- Why a text gives no settings. -/
inductive ReadError
  /-- it does not describe settings -/
  | unreadable
  | invalid (fault : Fault)
  deriving DecidableEq, Repr

/-- What is said about a text that gives no settings. -/
def ReadError.message : ReadError → String
  | unreadable => "could not parse config: the text does not describe settings"
  | invalid fault => fault.message

/-- The settings that a text describes. -/
def ofText (cs : List Char) : Except ReadError Settings :=
  match (Node.parse? cs).bind fun n => n.bind ofNode? with
  | none => .error .unreadable
  | some s =>
    match s.fault? with
    | some fault => .error (.invalid fault)
    | none => .ok s

end EventIntake.Settings
