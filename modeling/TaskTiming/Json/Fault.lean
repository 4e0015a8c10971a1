import TaskTiming.Time
import TaskTiming.Os.IoError

/-!
# Faults of JSON texts

Why a text is not the JSON value, or the record, that it should be. The faults that name what is wrong
have a message; all others are just malformed.
-/

namespace TaskTiming.Json
set_option autoImplicit false

/-- Why a text is not the JSON it should be. -/
inductive Fault
  /-- A member that must be there is not. -/
  | missingField (name : String)
  /-- A member is there twice. -/
  | duplicateField (name : String)
  /-- A word is not one of the two allowed. -/
  | unknownVariant (found first second : String)
  /-- A text is no time. -/
  | time (error : TimeError)
  /-- The text could not be read. -/
  | unreadable (cause : IoError)
  /-- Any other fault of shape, kind or range. -/
  | malformed
deriving DecidableEq, Repr

/-- The message, for the faults that have one of their own. -/
def Fault.message? : Fault → Option String
  | .missingField name => some ("missing field `" ++ name ++ "`")
  | .duplicateField name => some ("duplicate field `" ++ name ++ "`")
  | .unknownVariant found first second =>
    some ("unknown variant `" ++ found ++ "`, expected `" ++ first ++ "` or `" ++ second ++ "`")
  | .time error => some error.message
  | .unreadable cause => some cause.message
  | .malformed => none

end TaskTiming.Json
