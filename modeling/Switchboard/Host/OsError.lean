/-!
# Errors of the operating system

The refusals that files and sockets can meet, with their numbers and their words.
-/

namespace Switchboard

/-- Why the operating system refuses. -/
inductive OsError
  | noSuchFile
  | fileExists
  | notADirectory
  | isADirectory
  | nameTooLong
  | addressInUse
  | addressNotAvailable
  | networkUnreachable
  | connectionReset
  | connectionRefused
  deriving DecidableEq, Repr

namespace OsError

def code : OsError → Nat
  | .noSuchFile => 2
  | .fileExists => 17
  | .notADirectory => 20
  | .isADirectory => 21
  | .nameTooLong => 36
  | .addressInUse => 98
  | .addressNotAvailable => 99
  | .networkUnreachable => 101
  | .connectionReset => 104
  | .connectionRefused => 111

def reason : OsError → String
  | .noSuchFile => "No such file or directory"
  | .fileExists => "File exists"
  | .notADirectory => "Not a directory"
  | .isADirectory => "Is a directory"
  | .nameTooLong => "File name too long"
  | .addressInUse => "Address already in use"
  | .addressNotAvailable => "Cannot assign requested address"
  | .networkUnreachable => "Network is unreachable"
  | .connectionReset => "Connection reset by peer"
  | .connectionRefused => "Connection refused"

def message (e : OsError) : String :=
  e.reason ++ " (os error " ++ toString e.code ++ ")"

end OsError

/-- Why input or output fails. -/
inductive IoError
  | os (e : OsError)
  /-- A file that should hold a text is not UTF-8. -/
  | notText
  /-- A path that no file can have. -/
  | zeroInPath
  /-- A name that nobody knows the address of. -/
  | unknownHost
  deriving DecidableEq, Repr

def IoError.message : IoError → String
  | .os e => e.message
  | .notText => "stream did not contain valid UTF-8"
  | .zeroInPath => "file name contained an unexpected NUL byte"
  | .unknownHost =>
    "failed to lookup address information: Temporary failure in name resolution"

end Switchboard
