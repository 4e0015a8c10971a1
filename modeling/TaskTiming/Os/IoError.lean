import TaskTiming.Os.ErrorText

/-!
# Failures of system calls

An error number of the system, or a refusal that comes before the system is asked.
-/

namespace TaskTiming
set_option autoImplicit false

/-- Why a system call failed. -/
inductive IoError
  /-- The system refused it. -/
  | os (errno : Nat)
  /-- An argument has no form that the system takes. -/
  | invalidInput
  /-- A path holds a NUL character. -/
  | nulInPath
  /-- A task's thread ended without a result. -/
  | threadPanicked (name : String)
  /-- A source says of itself that it ended too early. -/
  | unexpectedEof (text : String)
  /-- Any other failure, with its text. -/
  | other (text : String)
deriving DecidableEq, Repr

namespace IoError

/-- Operation not permitted. -/
def notPermitted : IoError := .os 1
/-- No such file or directory. -/
def notFound : IoError := .os 2
/-- File exists. -/
def alreadyExists : IoError := .os 17
/-- Not a directory. -/
def notDirectory : IoError := .os 20
/-- Is a directory. -/
def isDirectory : IoError := .os 21
/-- No space left on device. -/
def noSpace : IoError := .os 28
/-- File name too long. -/
def nameTooLong : IoError := .os 36

def message : IoError → String
  | .os errno => Os.errorText errno ++ " (os error " ++ Decimal.text errno ++ ")"
  | .invalidInput => "invalid input parameter"
  | .nulInPath => "file name contained an unexpected NUL byte"
  | .threadPanicked name => "task thread " ++ name ++ " panicked"
  | .unexpectedEof text => text
  | .other text => text

/-- The system refused for want of a right. -/
def isPermission : IoError → Bool
  | .os errno => errno = 1 || errno = 13
  | _ => false

/-- The source ended too early, by its own word. -/
def isUnexpectedEof : IoError → Bool
  | .unexpectedEof _ => true
  | _ => false

end IoError

end TaskTiming
