/-!
# Failures of the file system

Each failure has the text that the system gives for it.
-/

namespace SupervisoryLadder.Files

/-- Why a step on the file system failed. -/
inductive SystemError where
  | noEntry
  | denied
  | busy
  | exists
  | notDirectory
  | isDirectory
  | invalidArgument
  | nameTooLong
  | tooManyLinks
  | nulInPath
  | notText
  /-- A failure that only the system itself can name. -/
  | other (text : String)
  deriving DecidableEq

/-- The system's text for a failure. -/
def SystemError.message : SystemError → String
  | noEntry => "No such file or directory (os error 2)"
  | denied => "Permission denied (os error 13)"
  | busy => "Device or resource busy (os error 16)"
  | .exists => "File exists (os error 17)"
  | notDirectory => "Not a directory (os error 20)"
  | isDirectory => "Is a directory (os error 21)"
  | invalidArgument => "Invalid argument (os error 22)"
  | nameTooLong => "File name too long (os error 36)"
  | tooManyLinks => "Too many levels of symbolic links (os error 40)"
  | nulInPath => "file name contained an unexpected NUL byte"
  | notText => "stream did not contain valid UTF-8"
  | other text => text

end SupervisoryLadder.Files
