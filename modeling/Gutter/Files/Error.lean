/-!
# Errors of files

Why a file or a directory cannot be used, in the words of the system.
-/

namespace Gutter

/-- Why a file cannot be used. -/
inductive FileError where
  | notPermitted
  | notFound
  | noDevice
  | listTooLong
  | notExecutable
  | badDescriptor
  | denied
  | exists
  | notDirectory
  | isDirectory
  | invalid
  | full
  | brokenPipe
  | nameTooLong
  | notEmpty
  | tooManyLinks
  | zeroInName
  | notUtf8
  deriving DecidableEq, Repr

namespace FileError

/-- The wording of an error. -/
def reason : FileError → String
  | .notPermitted => "Operation not permitted"
  | .notFound => "No such file or directory"
  | .noDevice => "No such device or address"
  | .listTooLong => "Argument list too long"
  | .notExecutable => "Exec format error"
  | .badDescriptor => "Bad file descriptor"
  | .denied => "Permission denied"
  | .exists => "File exists"
  | .notDirectory => "Not a directory"
  | .isDirectory => "Is a directory"
  | .invalid => "Invalid argument"
  | .full => "No space left on device"
  | .brokenPipe => "Broken pipe"
  | .nameTooLong => "File name too long"
  | .notEmpty => "Directory not empty"
  | .tooManyLinks => "Too many levels of symbolic links"
  | .zeroInName => "file name contained an unexpected NUL byte"
  | .notUtf8 => "stream did not contain valid UTF-8"

/-- The number that the system gives an error, if it is one of the system's. -/
def number? : FileError → Option Nat
  | .notPermitted => some 1
  | .notFound => some 2
  | .noDevice => some 6
  | .listTooLong => some 7
  | .notExecutable => some 8
  | .badDescriptor => some 9
  | .denied => some 13
  | .exists => some 17
  | .notDirectory => some 20
  | .isDirectory => some 21
  | .invalid => some 22
  | .full => some 28
  | .brokenPipe => some 32
  | .nameTooLong => some 36
  | .notEmpty => some 39
  | .tooManyLinks => some 40
  | .zeroInName | .notUtf8 => none

def message (e : FileError) : String :=
  match e.number? with
  | some n => e.reason ++ " (os error " ++ toString n ++ ")"
  | none => e.reason

end FileError

end Gutter
