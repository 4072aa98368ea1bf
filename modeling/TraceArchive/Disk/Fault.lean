import TraceArchive.Text.Quoted
/-!
What a disk refuses, by the number the operating system gives it.
-/

namespace TraceArchive

namespace Disk

/-- A refused operation: a numbered one of the system, or a name that no system call can carry. -/
inductive Fault where
  | system (code : Nat)
  | zeroByteInName
  deriving DecidableEq, Repr

namespace Fault

abbrev notFound : Fault := .system 2

abbrev alreadyExists : Fault := .system 17

abbrev notDirectory : Fault := .system 20

abbrev isDirectory : Fault := .system 21

abbrev noSpace : Fault := .system 28

abbrev nameTooLong : Fault := .system 36

/-- The class and the words of a numbered fault. -/
def description : Nat → String × String
  | 1 => ("PermissionDenied", "Operation not permitted")
  | 2 => ("NotFound", "No such file or directory")
  | 4 => ("Interrupted", "Interrupted system call")
  | 5 => ("Uncategorized", "Input/output error")
  | 7 => ("ArgumentListTooLong", "Argument list too long")
  | 9 => ("Uncategorized", "Bad file descriptor")
  | 11 => ("WouldBlock", "Resource temporarily unavailable")
  | 12 => ("OutOfMemory", "Cannot allocate memory")
  | 13 => ("PermissionDenied", "Permission denied")
  | 16 => ("ResourceBusy", "Device or resource busy")
  | 17 => ("AlreadyExists", "File exists")
  | 18 => ("CrossesDevices", "Invalid cross-device link")
  | 20 => ("NotADirectory", "Not a directory")
  | 21 => ("IsADirectory", "Is a directory")
  | 22 => ("InvalidInput", "Invalid argument")
  | 23 => ("Uncategorized", "Too many open files in system")
  | 24 => ("Uncategorized", "Too many open files")
  | 26 => ("ExecutableFileBusy", "Text file busy")
  | 27 => ("FileTooLarge", "File too large")
  | 28 => ("StorageFull", "No space left on device")
  | 29 => ("NotSeekable", "Illegal seek")
  | 30 => ("ReadOnlyFilesystem", "Read-only file system")
  | 31 => ("TooManyLinks", "Too many links")
  | 32 => ("BrokenPipe", "Broken pipe")
  | 35 => ("Deadlock", "Resource deadlock avoided")
  | 36 => ("InvalidFilename", "File name too long")
  | 38 => ("Unsupported", "Function not implemented")
  | 39 => ("DirectoryNotEmpty", "Directory not empty")
  | 40 => ("FilesystemLoop", "Too many levels of symbolic links")
  | 95 => ("Unsupported", "Operation not supported")
  | 98 => ("AddrInUse", "Address already in use")
  | 99 => ("AddrNotAvailable", "Cannot assign requested address")
  | 100 => ("NetworkDown", "Network is down")
  | 101 => ("NetworkUnreachable", "Network is unreachable")
  | 103 => ("ConnectionAborted", "Software caused connection abort")
  | 104 => ("ConnectionReset", "Connection reset by peer")
  | 107 => ("NotConnected", "Transport endpoint is not connected")
  | 110 => ("TimedOut", "Connection timed out")
  | 111 => ("ConnectionRefused", "Connection refused")
  | 113 => ("HostUnreachable", "No route to host")
  | 115 => ("InProgress", "Operation now in progress")
  | 116 => ("StaleNetworkFileHandle", "Stale file handle")
  | 122 => ("QuotaExceeded", "Disk quota exceeded")
  | code => ("Uncategorized", "Unknown error " ++ toString code)

/-- How a fault is shown. -/
def display : Fault → String
  | .system code =>
    let (kind, message) := description code
    Text.fields "Os" [("code", toString code), ("kind", kind), ("message", Text.quoted message)]
  | .zeroByteInName =>
    Text.fields "Error" [("kind", "InvalidInput"),
      ("message", Text.quoted "file name contained an unexpected NUL byte")]

/-- A fault in words, with its number. -/
def words : Fault → String
  | .system code => (description code).2 ++ " (os error " ++ toString code ++ ")"
  | .zeroByteInName => "file name contained an unexpected NUL byte"

end Fault

end Disk

end TraceArchive
