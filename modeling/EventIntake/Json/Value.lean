import EventIntake.Json.Draft

/-!
# Values

A value of the format, without the spelling it was read from, and the reading of a whole text as one
value. Containers may be nested up to a limit, and a number has to fit into 64 bits or a double.
-/

namespace EventIntake.Json

/-- A value. The members of an object keep their order. -/
inductive Value where
  | null
  | bool (b : Bool)
  | integer (n : Int)
  /-- a number that is no integer of 64 bits -/
  | decimal (n : Numeral)
  | string (s : String)
  | array (items : List Value)
  | object (members : List (String × Value))
  deriving Inhabited

/-- How deep containers may be nested, counting one more than the containers. -/
def nestingLimit : Nat := 128

/-- The value of a numeral. -/
def Numeral.value (n : Numeral) : Except Failure Value :=
  match n.integer? with
  | some v => .ok (.integer v)
  | none => if n.tooLarge then .error .malformed else .ok (.decimal n)

mutual

/-- The value of a draft, whose containers may be nested less than `depth` deep. -/
def Draft.value (depth : Nat) : Draft → Except Failure Value
  | .null => .ok .null
  | .bool b => .ok (.bool b)
  | .number n => n.value
  | .text t => Value.string <$> t.string
  | .array items =>
    if depth ≤ 1 then .error .malformed else Value.array <$> items.values (depth - 1) []
  | .object members =>
    if depth ≤ 1 then .error .malformed else Value.object <$> members.values (depth - 1) []
  | .broken _ needed => .error needed

/-- The values of an array's items, after those in `done`, which come last first. -/
def Items.values (depth : Nat) (done : List Value) : Items → Except Failure (List Value)
  | .stop none => .ok done.reverse
  | .stop (some f) => .error f
  | .next head tail =>
    match head.value depth with
    | .error f => .error f
    | .ok v => tail.values depth (v :: done)

/-- The values of an object's members, after those in `done`, which come last first. -/
def Members.values (depth : Nat) (done : List (String × Value)) :
    Members → Except Failure (List (String × Value))
  | .stop none => .ok done.reverse
  | .stop (some f) => .error f
  | .next key value tail =>
    match key.string with
    | .error f => .error f
    | .ok k =>
      match value.value depth with
      | .error f => .error f
      | .ok v => tail.values depth ((k, v) :: done)

end

/-- Reads what a whole text holds with `read`; only space may follow the value. -/
def readWhole {α : Type} (read : Draft → Except Failure α) (bs : List UInt8) : Except Failure α := do
  let (draft, more) := Draft.ofBytes bs
  let a ← read draft
  if more then throw .malformed else return a

/-- Reads a text as one value. -/
def Value.ofBytes (bs : List UInt8) : Except Failure Value :=
  readWhole (Draft.value nestingLimit) bs

namespace Value

/-- The member of an object under a key; the last one, if the key is there more than once. -/
def get? (v : Value) (key : String) : Option Value :=
  match v with
  | .object members => (members.reverse.find? (·.1 == key)).map (·.2)
  | _ => none

/-- The natural number that the value is. -/
def nat? : Value → Option Nat
  | .integer n => if 0 ≤ n then some n.toNat else none
  | _ => none

/-- The truth value that the value is. -/
def bool? : Value → Option Bool
  | .bool b => some b
  | _ => none

/-- The value of a natural number. -/
def ofNat (n : Nat) : Value := .integer n

/-- The value, or null. -/
def ofOption {α : Type} (write : α → Value) : Option α → Value
  | some a => write a
  | none => .null

end Value

end EventIntake.Json
