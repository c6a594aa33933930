/-!
# Refusals of the operating system

Why an operation on a file or a program was refused. The system numbers its refusals and has a text
for each number; further refusals come from looking at the data: a NUL character in the name of a
file or in the words of a call, and bytes that are no text.
-/

namespace SqlxDryRun

/-- Why an operation on a file or a program was refused. -/
inductive OsError where
  | numbered (number : Int)
  | nulInName
  | nulInCall
  | notUtf8
deriving DecidableEq, Repr, Inhabited

namespace OsError

/-- Nothing is found under a name. -/
def notFound : OsError := numbered 2

/-- The permissions of a file do not allow the operation. -/
def permissionDenied : OsError := numbered 13

/-- A directory was expected. -/
def notADirectory : OsError := numbered 20

/-- A directory was not expected. -/
def isADirectory : OsError := numbered 21

/-- A name on the way is too long. -/
def nameTooLong : OsError := numbered 36

/-- The texts of the numbered refusals, in order from zero on. -/
def numberedTexts : List String :=
  ["Success", "Operation not permitted", "No such file or directory", "No such process",
    "Interrupted system call", "Input/output error", "No such device or address",
    "Argument list too long", "Exec format error", "Bad file descriptor", "No child processes",
    "Resource temporarily unavailable", "Cannot allocate memory", "Permission denied",
    "Bad address", "Block device required", "Device or resource busy", "File exists",
    "Invalid cross-device link", "No such device", "Not a directory", "Is a directory",
    "Invalid argument", "Too many open files in system", "Too many open files",
    "Inappropriate ioctl for device", "Text file busy", "File too large",
    "No space left on device", "Illegal seek", "Read-only file system", "Too many links",
    "Broken pipe", "Numerical argument out of domain", "Numerical result out of range",
    "Resource deadlock avoided", "File name too long", "No locks available",
    "Function not implemented", "Directory not empty", "Too many levels of symbolic links",
    "Unknown error 41", "No message of desired type", "Identifier removed",
    "Channel number out of range", "Level 2 not synchronized", "Level 3 halted", "Level 3 reset",
    "Link number out of range", "Protocol driver not attached", "No CSI structure available",
    "Level 2 halted", "Invalid exchange", "Invalid request descriptor", "Exchange full",
    "No anode", "Invalid request code", "Invalid slot", "Unknown error 58",
    "Bad font file format", "Device not a stream", "No data available", "Timer expired",
    "Out of streams resources", "Machine is not on the network", "Package not installed",
    "Object is remote", "Link has been severed", "Advertise error", "Srmount error",
    "Communication error on send", "Protocol error", "Multihop attempted", "RFS specific error",
    "Bad message", "Value too large for defined data type", "Name not unique on network",
    "File descriptor in bad state", "Remote address changed",
    "Can not access a needed shared library", "Accessing a corrupted shared library",
    ".lib section in a.out corrupted", "Attempting to link in too many shared libraries",
    "Cannot exec a shared library directly", "Invalid or incomplete multibyte or wide character",
    "Interrupted system call should be restarted", "Streams pipe error", "Too many users",
    "Socket operation on non-socket", "Destination address required", "Message too long",
    "Protocol wrong type for socket", "Protocol not available", "Protocol not supported",
    "Socket type not supported", "Operation not supported", "Protocol family not supported",
    "Address family not supported by protocol", "Address already in use",
    "Cannot assign requested address", "Network is down", "Network is unreachable",
    "Network dropped connection on reset", "Software caused connection abort",
    "Connection reset by peer", "No buffer space available",
    "Transport endpoint is already connected", "Transport endpoint is not connected",
    "Cannot send after transport endpoint shutdown", "Too many references: cannot splice",
    "Connection timed out", "Connection refused", "Host is down", "No route to host",
    "Operation already in progress", "Operation now in progress", "Stale file handle",
    "Structure needs cleaning", "Not a XENIX named type file", "No XENIX semaphores available",
    "Is a named type file", "Remote I/O error", "Disk quota exceeded", "No medium found",
    "Wrong medium type", "Operation canceled", "Required key not available", "Key has expired",
    "Key has been revoked", "Key was rejected by service", "Owner died", "State not recoverable",
    "Operation not possible due to RF-kill", "Memory page has hardware error"]

/-- The text of a number. -/
def numberedText (number : Int) : String :=
  let text? := if number < 0 then none else numberedTexts[number.toNat]?
  text?.getD ("Unknown error " ++ toString number)

/-- The text of a refusal. -/
def message : OsError → String
  | numbered n => numberedText n ++ " (os error " ++ toString n ++ ")"
  | nulInName => "file name contained an unexpected NUL byte"
  | nulInCall => "nul byte found in provided data"
  | notUtf8 => "stream did not contain valid UTF-8"

end OsError

end SqlxDryRun
