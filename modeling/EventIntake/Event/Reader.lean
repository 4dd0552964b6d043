import EventIntake.Event.Basic
import EventIntake.Json.Value

/-!
# Reading events

An event is a JSON object, of which all members but four are passed over, or an array of these four.
It is read in the order of the text, so that the first fault is the one reported. Exceptions are
first read as a value of any form, and then taken for a list of exceptions or an object that has one.
-/

namespace EventIntake

open Json (Draft Failure Items Members)

namespace Event

/-! ## Records -/

/-- The failure of a reader who needs something else than this draft. -/
def wrongShape : Draft → Failure
  | .number n => match n.value with
    | .error f => f
    | .ok _ => .mismatched
  | .text t => match t.string with
    | .error f => f
    | .ok _ => .mismatched
  | .broken _ needed => needed
  | _ => .mismatched

/-- A field of a record: its name, and how its value is read and put into the record. -/
structure Field (α : Type) where
  name : String
  read : α → Draft → Except Failure α

/-- What is read when nothing follows. -/
def readEnd {α : Type} (record : α) : Option Failure → Except Failure α
  | some f => .error f
  | none => .ok record

/-- Reads the fields of a record in order. The last ones may be missing. -/
def readItems {α : Type} (record : α) : List (Field α) → Items → Except Failure α
  | _, .stop fault => readEnd record fault
  | [], .next _ _ => .error .malformed
  | field :: fields, .next head tail =>
    match field.read record head with
    | .error f => .error f
    | .ok record => readItems record fields tail

/-- Reads the fields of a record by their names, each at most once; `seen` holds the names of those
before. -/
def readMembers {α : Type} (fields : List (Field α)) (record : α) (seen : List String) :
    Members → Except Failure α
  | .stop fault => readEnd record fault
  | .next key value tail =>
    match key.string with
    | .error f => .error f
    | .ok name =>
      match fields.find? (·.name == name) with
      | some field =>
        if seen.contains name then .error .mismatched
        else match field.read record value with
          | .error f => .error f
          | .ok record => readMembers fields record (name :: seen) tail
      | none =>
        match value.skip with
        | .error f => .error f
        | .ok () => readMembers fields record seen tail

/-- Reads a record. -/
def readRecord {α : Type} (fields : List (Field α)) (record : α) : Draft → Except Failure α
  | .array items => readItems record fields items
  | .object members => readMembers fields record [] members
  | d => .error (wrongShape d)

/-- Reads a text that may be missing. -/
def readText : Draft → Except Failure (Option (List Char))
  | .null => .ok none
  | .text t => some <$> t.chars
  | d => .error (wrongShape d)

/-! ## Exceptions -/

/-- The value of the only field of a record, if it is there. No record has it twice. -/
def onlyField? (name : String) : Json.Value → Option (Option Json.Value)
  | .array [] => some none
  | .array [v] => some (some v)
  | .object members =>
    match members.filter (·.1 == name) with
    | [] => some none
    | [(_, v)] => some (some v)
    | _ => none
  | _ => none

/-- The frame that a value describes. -/
def frameOf? (v : Json.Value) : Option Frame := do
  match ← onlyField? "filename" v with
  | none | some .null => return ⟨none⟩
  | some (.string s) => return ⟨some s.toList⟩
  | some _ => none

/-- The frames of the stack trace that a value describes. -/
def framesOf? (v : Json.Value) : Option (List Frame) := do
  match ← onlyField? "frames" v with
  | none => return []
  | some (.array frames) => frames.mapM frameOf?
  | some _ => none

/-- The exception that a value describes. -/
def exceptionOf? (v : Json.Value) : Option RaisedException := do
  match ← onlyField? "stacktrace" v with
  | none | some .null => return ⟨none⟩
  | some trace => return ⟨some (← framesOf? trace)⟩

/-- The exceptions that a value describes. -/
def exceptionsOf? : Json.Value → Option (List RaisedException)
  | .array values => values.mapM exceptionOf?
  | .object members => do
    match ← onlyField? "values" (.object members) with
    | none => return []
    | some (.array values) => values.mapM exceptionOf?
    | some _ => none
  | _ => none

/-- Reads the exceptions of an event. -/
def readExceptions : Draft → Except Failure (List RaisedException)
  | .null => .ok []
  | d =>
    match d.value (Json.nestingLimit - 1) with
    | .error f => .error f
    | .ok v =>
      match exceptionsOf? v with
      | some exceptions => .ok exceptions
      | none => .error .mismatched

/-! ## Events -/

/-- Reads the URL of a request that may be missing. -/
def readRequest : Draft → Except Failure (Option (List Char))
  | .null => .ok none
  | d => readRecord [⟨"url", fun _ d => readText d⟩] none d

/-- The fields of an event in order. -/
def fields : List (Field Event) := [
  ⟨"title", fun e d => do return { e with title := ← readText d }⟩,
  ⟨"transaction", fun e d => do return { e with transaction := ← readText d }⟩,
  ⟨"request", fun e d => do return { e with url := ← readRequest d }⟩,
  ⟨"exception", fun e d => do return { e with exceptions := ← readExceptions d }⟩]

/-- Reads an event. -/
def ofBytes (bs : List UInt8) : Except Failure Event :=
  Json.readWhole (readRecord fields Event.empty) bs

end Event

end EventIntake
