import AgentWorkshop.Text.Quoted

/-!
# Errors of the operating system

A `SystemError` is a number, a reason and, where one is concerned, a file. The
numbers that accesses to files and streams give rise to are named by `Errno`.
-/

namespace AgentWorkshop

/-- The ways in which access to a file or stream fails. -/
inductive Errno where
  | noEntry
  | denied
  | exists
  | notDirectory
  | isDirectory
  | nameTooLong
  | notPermitted
  | noDevice
  | noFormat
  | badDescriptor
  | busy
  | crossesDevices
  | invalid
  | noSpace
  | brokenPipe
  | notEmpty
  | manyLinks
  deriving DecidableEq, Repr

namespace Errno

/-- The number of a failure. -/
def code : Errno → Int
  | noEntry => 2
  | denied => 13
  | .exists => 17
  | notDirectory => 20
  | isDirectory => 21
  | nameTooLong => 36
  | notPermitted => 1
  | noDevice => 6
  | noFormat => 8
  | badDescriptor => 9
  | busy => 16
  | crossesDevices => 18
  | invalid => 22
  | noSpace => 28
  | brokenPipe => 32
  | notEmpty => 39
  | manyLinks => 40

/-- The words for a failure. -/
def reason : Errno → Text
  | noEntry => text "No such file or directory"
  | denied => text "Permission denied"
  | .exists => text "File exists"
  | notDirectory => text "Not a directory"
  | isDirectory => text "Is a directory"
  | nameTooLong => text "File name too long"
  | notPermitted => text "Operation not permitted"
  | noDevice => text "No such device or address"
  | noFormat => text "Exec format error"
  | badDescriptor => text "Bad file descriptor"
  | busy => text "Device or resource busy"
  | crossesDevices => text "Invalid cross-device link"
  | invalid => text "Invalid argument"
  | noSpace => text "No space left on device"
  | brokenPipe => text "Broken pipe"
  | notEmpty => text "Directory not empty"
  | manyLinks => text "Too many levels of symbolic links"

end Errno

/-- An error that the operating system reports. -/
structure SystemError where
  /-- The number of the error. -/
  code : Int
  /-- The words for it. -/
  reason : Text
  /-- The file concerned. -/
  file : Option Text
  deriving DecidableEq, Repr

namespace SystemError

/-- The error of a failed access to a file. -/
def ofErrno (e : Errno) (file : Text) : SystemError :=
  { code := e.code, reason := e.reason, file := some file }

/-- The number in brackets, the reason, and the file in quotes. -/
def message (e : SystemError) : Text :=
  let start := text "[Errno " ++ Text.ofInt e.code ++ text "] " ++ e.reason
  match e.file with
  | some file => start ++ text ": " ++ file.quoted
  | none => start

end SystemError

end AgentWorkshop
