import EventIntake.Json.Value

/-!
# Writing values

A value in writing, on one line or indented by two blanks for a reader. In a string only the quote,
the backslash and the control characters below U+0020 are escaped.
-/

namespace EventIntake.Json

/-- The escape of a character in a string, if it needs one. -/
def escape? (c : Char) : Option String :=
  match c.toNat with
  | 0x22 => some "\\\""
  | 0x5C => some "\\\\"
  | 0x08 => some "\\b"
  | 0x09 => some "\\t"
  | 0x0A => some "\\n"
  | 0x0C => some "\\f"
  | 0x0D => some "\\r"
  | n =>
    if n < 0x20 then
      some ("\\u00" ++ String.ofList [Nat.digitChar (n / 16), Nat.digitChar (n % 16)])
    else none

/-- Adds a string in quotes to a text. -/
def quoteOnto (out : String) (s : String) : String :=
  (s.toList.foldl (fun out c =>
    match escape? c with
    | some e => out ++ e
    | none => out.push c) (out.push '\x22')).push '\x22'

/-- How values are laid out. -/
structure Layout where
  /-- what stands in front of each item or member, at a given depth -/
  lead : Nat → String
  /-- what stands between a key and its value -/
  colon : String

/-- No space anywhere. -/
def Layout.compact : Layout := ⟨fun _ => "", ":"⟩

/-- A line for each item and member, indented by two blanks for each container around it. -/
def Layout.indented : Layout :=
  ⟨fun depth => "\n" ++ String.ofList (List.replicate (2 * depth) ' '), ": "⟩

mutual

/-- Adds a value in writing to a text. -/
def Value.printOnto (layout : Layout) (depth : Nat) (out : String) : Value → String
  | .null => out ++ "null"
  | .bool b => out ++ (if b then "true" else "false")
  | .integer n => out ++ toString n
  | .decimal n => out ++ n.text
  | .string s => quoteOnto out s
  | .array [] => out ++ "[]"
  | .array items =>
    (printItemsOnto layout (depth + 1) (out.push '[') "" items ++ layout.lead depth).push ']'
  | .object [] => out ++ "\x7b\x7d"
  | .object members =>
    (printMembersOnto layout (depth + 1) (out.push '\x7b') "" members ++ layout.lead depth).push '\x7d'

/-- Adds the items of an array to a text. -/
def printItemsOnto (layout : Layout) (depth : Nat) (out separator : String) :
    List Value → String
  | [] => out
  | v :: vs =>
    printItemsOnto layout depth
      (v.printOnto layout depth (out ++ separator ++ layout.lead depth)) "," vs

/-- Adds the members of an object to a text. -/
def printMembersOnto (layout : Layout) (depth : Nat) (out separator : String) :
    List (String × Value) → String
  | [] => out
  | (k, v) :: rest =>
    printMembersOnto layout depth
      (v.printOnto layout depth (quoteOnto (out ++ separator ++ layout.lead depth) k ++ layout.colon))
      "," rest

end

/-- A value on one line. -/
def Value.compact (v : Value) : String :=
  v.printOnto .compact 0 ""

/-- A value with a line for each item and member. -/
def Value.pretty (v : Value) : String :=
  v.printOnto .indented 0 ""

end EventIntake.Json
