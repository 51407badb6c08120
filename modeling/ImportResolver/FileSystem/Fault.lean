/- What the operating system answers when a file operation cannot be done. -/
namespace ImportResolver

inductive Fault where
  | notFound
  | notADirectory
  | isADirectory
  | alreadyExists
  | tooManyLinks
  | nameTooLong
  | busy
  | invalidArgument
  | notExecutable
  | permissionDenied
  | notEmpty
  | noDevice
  | nulInPath
  | invalidUtf8
  deriving DecidableEq

namespace Fault

/-- What the fault is called. -/
def reason : Fault → String
  | .notFound => "No such file or directory"
  | .notADirectory => "Not a directory"
  | .isADirectory => "Is a directory"
  | .alreadyExists => "File exists"
  | .tooManyLinks => "Too many levels of symbolic links"
  | .nameTooLong => "File name too long"
  | .busy => "Device or resource busy"
  | .invalidArgument => "Invalid argument"
  | .notExecutable => "Exec format error"
  | .permissionDenied => "Permission denied"
  | .notEmpty => "Directory not empty"
  | .noDevice => "No such device or address"
  | .nulInPath => "file name contained an unexpected NUL byte"
  | .invalidUtf8 => "stream did not contain valid UTF-8"

/-- The system's number for it. -/
def number? : Fault → Option Nat
  | .notFound => some 2
  | .notADirectory => some 20
  | .isADirectory => some 21
  | .alreadyExists => some 17
  | .tooManyLinks => some 40
  | .nameTooLong => some 36
  | .busy => some 16
  | .invalidArgument => some 22
  | .notExecutable => some 8
  | .permissionDenied => some 13
  | .notEmpty => some 39
  | .noDevice => some 6
  | .nulInPath => none
  | .invalidUtf8 => none

def message (f : Fault) : String :=
  match f.number? with
  | some n => f.reason ++ " (os error " ++ toString n ++ ")"
  | none => f.reason

/-- The class that a fault belongs to. -/
def kind : Fault → String
  | .notFound => "NotFound"
  | .notADirectory => "NotADirectory"
  | .isADirectory => "IsADirectory"
  | .alreadyExists => "AlreadyExists"
  | .tooManyLinks => "FilesystemLoop"
  | .nameTooLong => "InvalidFilename"
  | .busy => "ResourceBusy"
  | .invalidArgument => "InvalidInput"
  | .notExecutable => "Uncategorized"
  | .permissionDenied => "PermissionDenied"
  | .notEmpty => "DirectoryNotEmpty"
  | .noDevice => "Uncategorized"
  | .nulInPath => "InvalidInput"
  | .invalidUtf8 => "InvalidData"

end Fault
end ImportResolver
