import EventIntake.Maintenance
import EventIntake.SearchVector.Printer
import EventIntake.Store.Basic

/-!
# Appending to issues

A text is appended to the search vector of an issue, or a batch of texts to the vectors of several.
In a batch the texts of an issue are joined by blanks and appended at once, and either all issues are
written or none. A stored text that is no search vector is left as it is.
-/

namespace EventIntake

/-- What became of an append to an issue that exists. -/
inductive IssueAppend
  | applied (result : AppendResult)
  /-- the stored text is no search vector -/
  | unreadable
  deriving DecidableEq, Repr

/-- Whether the search vector of the issue is written. -/
def IssueAppend.changed : IssueAppend → Bool
  | applied r => r.outcome.changed
  | unreadable => false

/-- How texts are appended to issues. -/
structure AppendSettings where
  maxLexemes : Nat
  profile : Profile
  limits : IndexLimits

/-- What an operation gave, the store after it, and what was measured, also if it failed. -/
structure Answered (α : Type) where
  result : Except StoreError α
  store : Store
  measurements : List Measurement

namespace Store

/-- Appends a text to an issue. -/
def appendTo (s : Store) (how : AppendSettings) (issueId : Nat) (text : List Char) :
    Answered (Option IssueAppend) :=
  match s.vectorText? issueId with
  | .error e => ⟨.error e, s, []⟩
  | .ok none => ⟨.ok none, s, []⟩
  | .ok (some stored) =>
    match SearchVector.parse stored with
    | .error _ => ⟨.ok (some .unreadable), s, [.unreadableVector]⟩
    | .ok existing =>
      let r := existing.append text how.maxLexemes how.profile how.limits
      ⟨.ok (some (.applied r)),
        if r.outcome.changed then s.writeVector issueId r.vector.text else s, r.measurements⟩

/-- Appends a text to an issue, as an operation of its own. -/
def append (s : Store) (how : AppendSettings) (issueId : Nat) (text : List Char) :
    Answered (Option IssueAppend) :=
  let a := s.appendTo how issueId text
  match a.result with
  | .ok _ => { a with measurements := a.measurements ++ [.issueAppended] }
  | .error _ => a

/-! ## Batches -/

/-- An issue and a text for it. -/
abbrev Update := Nat × List Char

/-- Texts joined by blanks. -/
def joinTexts (texts : List (List Char)) : List Char :=
  [' '].intercalate texts

/-- The issues of a batch in order, each with its texts in the order of the batch. -/
def groups (updates : List Update) : List (Nat × List (List Char)) :=
  let ids := (updates.map Prod.fst).mergeSort.eraseReps
  ids.map fun id => (id, (updates.filter (·.1 = id)).map Prod.snd)

/-- Appends to one issue after another, and counts those that are written. -/
def appendGroups (how : AppendSettings) :
    List (Nat × List (List Char)) → Store → Nat → List Measurement → Answered Nat
  | [], s, written, ms => ⟨.ok written, s, ms⟩
  | (id, texts) :: rest, s, written, ms =>
    let a := s.appendTo how id (joinTexts texts)
    match a.result with
    | .error e => ⟨.error e, a.store, ms ++ a.measurements⟩
    | .ok r =>
      appendGroups how rest a.store (written + if r.any IssueAppend.changed then 1 else 0)
        (ms ++ a.measurements)

/-- Appends a batch of texts to issues, and counts those that are written. -/
def appendBatch (s : Store) (how : AppendSettings) (updates : List Update) : Answered Nat :=
  let gs := groups updates
  if gs.isEmpty then ⟨.ok 0, s, []⟩
  else
    let a := appendGroups how gs s 0 [.batchSize gs.length]
    match a.result with
    | .ok _ => a
    | .error _ => { a with store := s }

/-! ## Operations -/

/-- An operation that writes. -/
inductive Operation
  | insertOrganization (name : String) (accepting : Bool) (rate : UInt8) (scrubs : Bool)
  | insertProject (organizationId : Nat) (name : String) (scrubs : Bool) (rate : UInt8)
      (firstEvent : Option Instant)
  | insertKey (projectId : Nat) (key : PublicKey)
  | createIssue (projectId : Nat) (title : String)
  | setAccepting (organizationId : Nat) (accepting : Bool)
  | softDelete (projectId : Nat)
  | append (how : AppendSettings) (issueId : Nat) (text : List Char)
  | appendBatch (how : AppendSettings) (updates : List Update)

/-- Why the operation fails, if it does, and the store after it. -/
def perform (s : Store) (op : Operation) : Option StoreError × Store :=
  let ofRow {α : Type} : Except StoreError (α × Store) → Option StoreError × Store
    | .ok (_, s) => (none, s)
    | .error e => (some e, s)
  let ofStore : Except StoreError Store → Option StoreError × Store
    | .ok s => (none, s)
    | .error e => (some e, s)
  let ofAnswer {α : Type} (a : Answered α) : Option StoreError × Store :=
    match a.result with
    | .ok _ => (none, a.store)
    | .error e => (some e, a.store)
  match op with
  | .insertOrganization name accepting rate scrubs =>
    ofRow (s.insertOrganization name accepting rate scrubs)
  | .insertProject organizationId name scrubs rate firstEvent =>
    ofRow (s.insertProject organizationId name scrubs rate firstEvent)
  | .insertKey projectId key => ofStore (s.insertKey projectId key)
  | .createIssue projectId title => ofRow (s.createIssue projectId title)
  | .setAccepting organizationId accepting => ofStore (s.setAccepting organizationId accepting)
  | .softDelete projectId => ofStore (s.softDelete projectId)
  | .append how issueId text => ofAnswer (s.append how issueId text)
  | .appendBatch how updates => ofAnswer (s.appendBatch how updates)

/-- The store after operations, one after another. -/
def run (s : Store) (ops : List Operation) : Store :=
  ops.foldl (fun s op => (s.perform op).2) s

end Store

end EventIntake
