/-!
# Options

Reading the options of a command from its arguments. An option begins with two hyphens and its name,
or with one hyphen and a letter. Its value follows it, in the next argument or after an equals sign.
No option may be given twice. A value is looked at only when the next option or the end of the
arguments settles it, so that an unknown argument is reported before a value that is not valid.
-/

namespace EventIntake.CommandLine

/-- Why the arguments are refused. -/
inductive UsageError
  /-- help was asked for -/
  | helpWanted
  /-- nothing was given at all -/
  | nothingGiven
  | commandMissing
  | commandUnknown
  | argumentUnknown
  | argumentMissing
  /-- two arguments exclude each other, or an option was given twice -/
  | conflict
  | valueMissing
  | valueInvalid
  /-- a value was given to a flag -/
  | valueSurplus
  deriving DecidableEq, Repr, Inhabited

/-- What is said about arguments that are refused. -/
def UsageError.message : UsageError → String
  | helpWanted => "help was asked for"
  | nothingGiven | commandMissing => "a command is required"
  | commandUnknown => "there is no such command"
  | argumentUnknown => "an argument was not expected"
  | argumentMissing => "a required argument was not given"
  | conflict => "two arguments cannot be used together"
  | valueMissing => "an option needs a value"
  | valueInvalid => "the value of an option is not valid"
  | valueSurplus => "an option takes no value"

/-- What an option takes. -/
inductive OptionKind
  /-- nothing; the option asks for help -/
  | help
  /-- nothing -/
  | flag
  | text
  /-- the path of a file -/
  | path
  /-- a number of 64 bits -/
  | count
  /-- a number from 0 to 100 -/
  | percent
  deriving DecidableEq, Repr

/-- Whether the option takes a value. -/
def OptionKind.takesValue : OptionKind → Bool
  | .help | .flag => false
  | _ => true

/-- An option. -/
structure OptionSpec where
  name : String
  letter : Option Char
  kind : OptionKind
  deriving DecidableEq, Repr

/-- The option that asks for help. -/
def OptionSpec.help : OptionSpec := ⟨"help", some 'h', .help⟩

/-- What may be given to a command. -/
structure Grammar where
  options : List OptionSpec
  /-- the names of the commands that may follow -/
  commands : List String

/-! ## Values -/

/-- The number that some digits are, after a plus sign if there is one. -/
def countOf? (s : String) : Option Nat :=
  let digits := match s.toList with
    | '+' :: digits => digits
    | digits => digits
  if digits.isEmpty || !digits.all Char.isDigit then none
  else
    let n := digits.foldl (fun n c => n * 10 + (c.toNat - '0'.toNat)) 0
    if n < UInt64.size then some n else none

/-- The number from 0 to 100 that some digits are, after a sign if there is one. -/
def percentOf? (s : String) : Option Nat :=
  match s.toList with
  | '-' :: digits =>
    if digits.isEmpty || !digits.all (· == '0') then none else some 0
  | _ => (countOf? s).filter (· ≤ 100)

/-- Why a value is refused, if it is. -/
def OptionKind.refuses? (kind : OptionKind) (value : String) : Option UsageError :=
  match kind with
  | .path => if value.isEmpty then some .valueMissing else none
  | .count => if (countOf? value).isNone then some .valueInvalid else none
  | .percent => if (percentOf? value).isNone then some .valueInvalid else none
  | _ => none

/-! ## Reading -/

/-- How far the arguments have been read. -/
structure Progress where
  /-- the options that are settled, with their values -/
  given : List (OptionSpec × String)
  /-- the option that is not, with its value if that has been read -/
  pending : Option (OptionSpec × Option String)
  /-- whether a double hyphen was given, after which nothing is an option -/
  closed : Bool

namespace Progress

/-- Whether the next argument may be the value of an option. -/
def awaits (p : Progress) : Bool :=
  match p.pending with
  | some (_, none) => true
  | _ => false

/-- Settles an option. -/
def take (p : Progress) (o : OptionSpec) (value : Option String) : Except UsageError Progress :=
  if o.kind.takesValue && value.isNone then .error .valueMissing
  else if o.kind = .help then .error .helpWanted
  else if p.given.any (·.1 == o) then .error .conflict
  else
    match value.bind o.kind.refuses? with
    | some e => .error e
    | none => .ok { p with given := p.given ++ [(o, value.getD "")] }

/-- Settles the option that is not. -/
def settle (p : Progress) : Except UsageError Progress :=
  match p.pending with
  | some (o, value) => { p with pending := none }.take o value
  | none => .ok p

/-- Begins an option, with the value that is attached to it. -/
def begin (p : Progress) (o : OptionSpec) (attached : Option String) :
    Except UsageError Progress := do
  let p ← p.settle
  if o.kind.takesValue && attached.isNone then return { p with pending := some (o, none) }
  else p.take o attached

/-- Reads an option with a name. -/
def readNamed (g : Grammar) (p : Progress) (text : List Char) : Except UsageError Progress :=
  let name := String.ofList (text.takeWhile (· != '='))
  let attached := match text.dropWhile (· != '=') with
    | _ :: value => some (String.ofList value)
    | [] => none
  match g.options.find? (·.name == name) with
  | some o =>
    if !o.kind.takesValue && attached.isSome then .error .valueSurplus else p.begin o attached
  | none => .error .argumentUnknown

/-- Reads options with letters. What follows the letter of an option with a value is its value. -/
def readLetters (g : Grammar) (p : Progress) : List Char → Except UsageError Progress
  | [] => .ok p
  | c :: rest =>
    match g.options.find? (·.letter == some c) with
    | none => .error .argumentUnknown
    | some o =>
      if o.kind.takesValue then
        p.begin o (match rest with
          | [] => none
          | '=' :: value => some (String.ofList value)
          | value => some (String.ofList value))
      else
        match p.begin o none with
        | .ok p => readLetters g p rest
        | .error e => .error e

/-- Refuses an argument that is no option, no value and no command. -/
def refuse (g : Grammar) (p : Progress) (argument : String) : UsageError :=
  if g.commands.isEmpty || p.closed && g.commands.contains argument then .argumentUnknown
  else .commandUnknown

/-- Reads an argument that is no command. -/
def read (g : Grammar) (p : Progress) (argument : String) : Except UsageError Progress :=
  if p.closed then .error (p.refuse g argument)
  else
    match argument.toList with
    | ['-', '-'] => .ok { p with closed := true }
    | '-' :: '-' :: text => p.readNamed g text
    | '-' :: c :: letters => p.readLetters g (c :: letters)
    | _ =>
      match p.pending with
      | some (o, none) => .ok { p with pending := some (o, some argument) }
      | _ => .error (p.refuse g argument)

/-- Reads arguments up to a command, which comes with the arguments after it. -/
def readAll (g : Grammar) (p : Progress) :
    List String → Except UsageError (Progress × Option (String × List String))
  | [] => .ok (p, none)
  | argument :: rest =>
    if !p.closed && !p.awaits && g.commands.contains argument then .ok (p, some (argument, rest))
    else
      match p.read g argument with
      | .ok p => readAll g p rest
      | .error e => .error e

/-- Nothing has been read. -/
def start : Progress := ⟨[], none, false⟩

/-- The value of an option. -/
def value? (p : Progress) (name : String) : Option String :=
  (p.given.find? (·.1.name == name)).map (·.2)

end Progress

end EventIntake.CommandLine
