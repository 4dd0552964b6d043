import EventIntake.Json.Token

/-!
# Drafts

A draft is what can be made out of a text up to its first fault. It has the form of a value, and the
fault sits at the place where reading stopped. Whoever needs a value walks the draft in the order of
the text, so that a wrong shape early in the text is reported before a fault that comes later.

The draft is built from the tokens with an explicit list of the containers that are still open.
-/

namespace EventIntake.Json

mutual

/-- What can be made out of a text. -/
inductive Draft where
  | null
  | bool (b : Bool)
  | number (n : Numeral)
  | text (t : Quoted)
  | array (items : Items)
  | object (members : Members)
  /-- nothing that can be read; the failure for a reader who skips, and for one who needs a value -/
  | broken (skipped needed : Failure)

/-- The items of an array. -/
inductive Items where
  /-- no further item; the fault is there if the closing bracket is not -/
  | stop (fault : Option Failure)
  | next (head : Draft) (tail : Items)

/-- The members of an object. -/
inductive Members where
  /-- no further member; the fault is there if the closing bracket is not -/
  | stop (fault : Option Failure)
  | next (key : Quoted) (value : Draft) (tail : Members)

end

instance : Inhabited Draft := ⟨.null⟩

/-! ## Building a draft -/

/-- A container that is still open, with what has been read of it, last first. -/
inductive Open where
  | array (items : List Draft)
  /-- the key is the one whose value comes next -/
  | object (members : List (Quoted × Draft)) (key : Quoted)

/-- The array of some items. -/
def Draft.ofItems (items : List Draft) (fault : Option Failure) : Draft :=
  .array (items.foldl (fun tail head => .next head tail) (.stop fault))

/-- The object of some members. -/
def Draft.ofMembers (members : List (Quoted × Draft)) (fault : Option Failure) : Draft :=
  .object (members.foldl (fun tail (key, value) => .next key value tail) (.stop fault))

/-- Puts a value into the open container. -/
def Open.put (value : Draft) : Open → Draft
  | .array items => .ofItems (value :: items) (some .unfinished)
  | .object members key => .ofMembers ((key, value) :: members) (some .unfinished)

/-- The whole draft, when reading stops inside the open containers and `value` is the last thing in
the innermost one. -/
def Draft.seal (value : Draft) (containers : List Open) : Draft :=
  containers.foldl Open.put value

/-- What may stand next. -/
inductive Stage where
  /-- a value; in an array that has just been opened also its end -/
  | value (orEnd : Bool)
  /-- a comma or the end of the container, after this value -/
  | after (value : Draft)
  /-- a key of the object with these members; `orEnd` if the object has just been opened -/
  | key (members : List (Quoted × Draft)) (orEnd : Bool)
  /-- the colon after a key -/
  | colon

/-- The draft that a token begins, or is. -/
inductive Beginning where
  | whole (value : Draft)
  | array
  | object
  | unusable

/-- What a token can be where a value has to stand. -/
def Token.beginning : Token → Beginning
  | .openArray => .array
  | .openObject => .object
  | .null => .whole .null
  | .bool b => .whole (.bool b)
  | .number n => .whole (.number n)
  | .text t => .whole (.text t)
  | .broken skipped needed => .whole (.broken skipped needed)
  | _ => .unusable

/-- Builds the draft of the tokens that follow. The second part is whether tokens are left after it. -/
def Draft.build : Stage → List Open → List Token → Draft × Bool
  | .after value, [], rest => (value, !rest.isEmpty)
  | .after value, .array items :: outer, token :: rest =>
    match token with
    | .comma => build (.value false) (.array (value :: items) :: outer) rest
    | .closeArray => build (.after (.ofItems (value :: items) none)) outer rest
    | _ => ((Draft.ofItems (value :: items) (some .malformed)).seal outer, false)
  | .after value, .object members key :: outer, token :: rest =>
    match token with
    | .comma => build (.key ((key, value) :: members) false) outer rest
    | .closeObject => build (.after (.ofMembers ((key, value) :: members) none)) outer rest
    | _ => ((Draft.ofMembers ((key, value) :: members) (some .malformed)).seal outer, false)
  | .after value, .array items :: outer, [] =>
    ((Draft.ofItems (value :: items) (some .unfinished)).seal outer, false)
  | .after value, .object members key :: outer, [] =>
    ((Draft.ofMembers ((key, value) :: members) (some .unfinished)).seal outer, false)
  | .value orEnd, containers, [] =>
    match orEnd, containers with
    | true, .array items :: outer => ((Draft.ofItems items (some .unfinished)).seal outer, false)
    | _, _ => ((Draft.broken .unfinished .unfinished).seal containers, false)
  | .value orEnd, containers, token :: rest =>
    match orEnd, token, containers with
    | true, .closeArray, .array items :: outer => build (.after (.ofItems items none)) outer rest
    | _, _, _ =>
      match token.beginning with
      | .whole value => build (.after value) containers rest
      | .array => build (.value true) (.array [] :: containers) rest
      | .object => build (.key [] true) containers rest
      | .unusable => ((Draft.broken .malformed .malformed).seal containers, false)
  | .key members _, outer, [] => ((Draft.ofMembers members (some .unfinished)).seal outer, false)
  | .key members orEnd, outer, token :: rest =>
    match token, orEnd with
    | .text key, _ => build .colon (.object members key :: outer) rest
    | .closeObject, true => build (.after (.ofMembers members none)) outer rest
    | _, _ => ((Draft.ofMembers members (some .malformed)).seal outer, false)
  | .colon, containers, [] => ((Draft.broken .unfinished .unfinished).seal containers, false)
  | .colon, containers, token :: rest =>
    match token with
    | .colon => build (.value false) containers rest
    | _ => ((Draft.broken .malformed .malformed).seal containers, false)

/-- The draft of a text, and whether anything but space follows the value. -/
def Draft.ofBytes (bs : List UInt8) : Draft × Bool :=
  Draft.build (.value false) [] (Token.all bs)

/-! ## Skipping -/

mutual

/-- The first fault of a draft, for a reader who does not need its value. -/
def Draft.fault? : Draft → Option Failure
  | .text t => t.fault
  | .array items => items.fault?
  | .object members => members.fault?
  | .broken skipped _ => some skipped
  | _ => none

/-- The first fault of an array's items. -/
def Items.fault? : Items → Option Failure
  | .stop fault => fault
  | .next head tail =>
    match head.fault? with
    | some f => some f
    | none => tail.fault?

/-- The first fault of an object's members. -/
def Members.fault? : Members → Option Failure
  | .stop fault => fault
  | .next key value tail =>
    match key.fault <|> value.fault? with
    | some f => some f
    | none => tail.fault?

end

/-- Passes over a draft whose value is not needed. -/
def Draft.skip (d : Draft) : Except Failure Unit :=
  match d.fault? with
  | some f => .error f
  | none => .ok ()

end EventIntake.Json
