/-!
# Why a text is not the wanted value

Three causes tell a client what to mend: the text breaks the grammar, it stops too early, or it is a
value of another shape than the one asked for.
-/

namespace EventIntake.Json

/-- Why a text does not give the wanted value. -/
inductive Failure where
  /-- the text breaks the grammar, or holds a number or a nesting that cannot be represented -/
  | malformed
  /-- the text ends before the value does -/
  | unfinished
  /-- the text is a value of another shape -/
  | mismatched
  deriving DecidableEq, Repr

/-- The category under which a failure is reported. -/
def Failure.category : Failure → String
  | .malformed => "syntax"
  | .unfinished => "eof"
  | .mismatched => "data"

end EventIntake.Json
