import EventIntake.Store.Append

/-!
# Simulation

Workers that append synthetic events to one issue, one worker after another. The text of an event has
common words and one word of its own, so that the search vector of the issue grows until its limits
hold it. The report counts what became of the appends.
-/

namespace EventIntake.Simulation

/-- The common words. -/
def words : List String :=
  ["connection", "timeout", "refused", "database", "worker", "request", "handler", "queue",
    "socket", "payment", "checkout", "cache", "session", "token", "upload", "render"]

/-- A common word; they come round again after the last one. -/
def word (i : Nat) : String :=
  words.getD (i % words.length) ""

/-- The text of an event of a worker. -/
def eventText (worker event : Nat) : String :=
  word event ++ " " ++ word (event * 7 + worker) ++ " failed in module" ++ toString worker ++ "x" ++
    toString event

/-! ## Counts -/

/-- How often each outcome came up. -/
structure OutcomeCounts where
  appended : Nat
  truncated : Nat
  unchanged : Nat
  saturated : Nat
  oversized : Nat
  unreadable : Nat
  deriving DecidableEq, Repr

namespace OutcomeCounts

/-- Nothing came up. -/
def zero : OutcomeCounts := ⟨0, 0, 0, 0, 0, 0⟩

/-- Counts one append more. -/
def record (c : OutcomeCounts) : IssueAppend → OutcomeCounts
  | .unreadable => { c with unreadable := c.unreadable + 1 }
  | .applied r =>
    match r.outcome with
    | .appended => { c with appended := c.appended + 1 }
    | .truncated _ => { c with truncated := c.truncated + 1 }
    | .unchanged => { c with unchanged := c.unchanged + 1 }
    | .saturated => { c with saturated := c.saturated + 1 }
    | .oversized => { c with oversized := c.oversized + 1 }

/-- How many appends were counted. -/
def total (c : OutcomeCounts) : Nat :=
  c.appended + c.truncated + c.unchanged + c.saturated + c.oversized + c.unreadable

end OutcomeCounts

/-! ## Runs -/

/-- Appends texts to an issue, and counts. Stops at the first text if there is no such issue. -/
def appendTexts (how : AppendSettings) (issueId : Nat) :
    List String → OutcomeCounts → Store → Except StoreError OutcomeCounts × Store
  | [], counts, s => (.ok counts, s)
  | text :: rest, counts, s =>
    let a := s.append how issueId text.toList
    match a.result with
    | .error e => (.error e, a.store)
    | .ok none => (.ok counts, a.store)
    | .ok (some r) => appendTexts how issueId rest (counts.record r) a.store

/-- Lets workers append their events to an issue. -/
def runWorkers (how : AppendSettings) (issueId events : Nat) :
    List Nat → OutcomeCounts → Store → Except StoreError OutcomeCounts × Store
  | [], counts, s => (.ok counts, s)
  | worker :: rest, counts, s =>
    match appendTexts how issueId ((List.range events).map (eventText worker)) counts s with
    | (.error e, s) => (.error e, s)
    | (.ok counts, s) => runWorkers how issueId events rest counts s

/-- What is reported about a simulation. -/
structure Report where
  issueId : Nat
  workers : Nat
  outcomes : OutcomeCounts
  /-- the search vector of the issue after it -/
  vector : SearchVector

/-- Runs workers, each with some events, against an issue, and gives the store after it. There is no
report if there is no such issue. -/
def run (how : AppendSettings) (issueId workers events : Nat) (s : Store) :
    Except StoreError (Option Report) × Store :=
  match runWorkers how issueId events (List.range workers) .zero s with
  | (.error e, s) => (.error e, s)
  | (.ok counts, s) =>
    ((s.vector? issueId).map fun v => v.map fun v => ⟨issueId, workers, counts, v⟩, s)

end EventIntake.Simulation
