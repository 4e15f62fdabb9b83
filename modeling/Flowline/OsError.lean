/-!
# Refused operations

Why the operating system refuses to do something with a file.
-/

namespace Flowline

inductive OsError
  | notPermitted
  | notFound
  | noProcess
  | noDevice
  | tooManyArguments
  | badDescriptor
  | permissionDenied
  | alreadyThere
  | notDirectory
  | isDirectory
  | invalidArgument
  | noSpace
  | brokenPipe
  | nameTooLong
  | notEmpty
  | tooManyLinks
  /-- A null character in the name of a file. -/
  | nullInName
  /-- A null character in what a program is given. -/
  | nullInData
  deriving DecidableEq

namespace OsError

/-- The number of the error, if it has one. -/
def number? : OsError → Option Nat
  | notPermitted => some 1
  | notFound => some 2
  | noProcess => some 3
  | noDevice => some 6
  | tooManyArguments => some 7
  | badDescriptor => some 9
  | permissionDenied => some 13
  | alreadyThere => some 17
  | notDirectory => some 20
  | isDirectory => some 21
  | invalidArgument => some 22
  | noSpace => some 28
  | brokenPipe => some 32
  | nameTooLong => some 36
  | notEmpty => some 39
  | tooManyLinks => some 40
  | nullInName => none
  | nullInData => none

/-- The error in words. -/
def text : OsError → String
  | notPermitted => "Operation not permitted"
  | notFound => "No such file or directory"
  | noProcess => "No such process"
  | noDevice => "No such device or address"
  | tooManyArguments => "Argument list too long"
  | badDescriptor => "Bad file descriptor"
  | permissionDenied => "Permission denied"
  | alreadyThere => "File exists"
  | notDirectory => "Not a directory"
  | isDirectory => "Is a directory"
  | invalidArgument => "Invalid argument"
  | noSpace => "No space left on device"
  | brokenPipe => "Broken pipe"
  | nameTooLong => "File name too long"
  | notEmpty => "Directory not empty"
  | tooManyLinks => "Too many levels of symbolic links"
  | nullInName => "file name contained an unexpected NUL byte"
  | nullInData => "nul byte found in provided data"

/-- The error in words, with its number. -/
def message (e : OsError) : String :=
  match e.number? with
  | some n => e.text ++ " (os error " ++ toString n ++ ")"
  | none => e.text

end OsError

end Flowline
