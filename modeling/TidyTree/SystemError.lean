/-
TidyTree.SystemError — failures of the operating system.

Three things may describe why an operation of the system failed: the
number the system gave (`SystemError.os`), only a kind of failure
(`SystemError.simple`), or a kind with a text of its own
(`SystemError.custom`).  Every failure has a kind and a text.
-/

namespace TidyTree

/-! ## 1. Error numbers -/

/-- An error number of the operating system. -/
structure Errno where
  number : Int
deriving DecidableEq, Repr, Inhabited

namespace Errno

/-- There is no such file or directory. -/
def noEntry : Errno := ⟨2⟩
/-- The arguments of a program are too long together, or one of them alone. -/
def argumentsTooLong : Errno := ⟨7⟩
/-- The file is neither a program nor a script. -/
def execFormat : Errno := ⟨8⟩
/-- The permissions do not allow it. -/
def accessDenied : Errno := ⟨13⟩
/-- Something of that name is already there. -/
def alreadyThere : Errno := ⟨17⟩
/-- A part of the path that has to be a directory is none. -/
def notDirectory : Errno := ⟨20⟩
/-- The path names a directory where none can stand. -/
def isDirectory : Errno := ⟨21⟩
/-- The operation makes no sense with these arguments. -/
def invalid : Errno := ⟨22⟩
/-- The path, or one component of it, is longer than the system takes. -/
def nameTooLong : Errno := ⟨36⟩
/-- The directory still has entries. -/
def notEmpty : Errno := ⟨39⟩
/-- More symbolic links were met on one path than the system follows. -/
def linkLoop : Errno := ⟨40⟩

/-- The texts of the error numbers of the system. -/
def texts : List (Int × String) := [
  (0, "Success"),
  (1, "Operation not permitted"),
  (2, "No such file or directory"),
  (3, "No such process"),
  (4, "Interrupted system call"),
  (5, "Input/output error"),
  (6, "No such device or address"),
  (7, "Argument list too long"),
  (8, "Exec format error"),
  (9, "Bad file descriptor"),
  (10, "No child processes"),
  (11, "Resource temporarily unavailable"),
  (12, "Cannot allocate memory"),
  (13, "Permission denied"),
  (14, "Bad address"),
  (15, "Block device required"),
  (16, "Device or resource busy"),
  (17, "File exists"),
  (18, "Invalid cross-device link"),
  (19, "No such device"),
  (20, "Not a directory"),
  (21, "Is a directory"),
  (22, "Invalid argument"),
  (23, "Too many open files in system"),
  (24, "Too many open files"),
  (25, "Inappropriate ioctl for device"),
  (26, "Text file busy"),
  (27, "File too large"),
  (28, "No space left on device"),
  (29, "Illegal seek"),
  (30, "Read-only file system"),
  (31, "Too many links"),
  (32, "Broken pipe"),
  (33, "Numerical argument out of domain"),
  (34, "Numerical result out of range"),
  (35, "Resource deadlock avoided"),
  (36, "File name too long"),
  (37, "No locks available"),
  (38, "Function not implemented"),
  (39, "Directory not empty"),
  (40, "Too many levels of symbolic links"),
  (42, "No message of desired type"),
  (43, "Identifier removed"),
  (44, "Channel number out of range"),
  (45, "Level 2 not synchronized"),
  (46, "Level 3 halted"),
  (47, "Level 3 reset"),
  (48, "Link number out of range"),
  (49, "Protocol driver not attached"),
  (50, "No CSI structure available"),
  (51, "Level 2 halted"),
  (52, "Invalid exchange"),
  (53, "Invalid request descriptor"),
  (54, "Exchange full"),
  (55, "No anode"),
  (56, "Invalid request code"),
  (57, "Invalid slot"),
  (59, "Bad font file format"),
  (60, "Device not a stream"),
  (61, "No data available"),
  (62, "Timer expired"),
  (63, "Out of streams resources"),
  (64, "Machine is not on the network"),
  (65, "Package not installed"),
  (66, "Object is remote"),
  (67, "Link has been severed"),
  (68, "Advertise error"),
  (69, "Srmount error"),
  (70, "Communication error on send"),
  (71, "Protocol error"),
  (72, "Multihop attempted"),
  (73, "RFS specific error"),
  (74, "Bad message"),
  (75, "Value too large for defined data type"),
  (76, "Name not unique on network"),
  (77, "File descriptor in bad state"),
  (78, "Remote address changed"),
  (79, "Can not access a needed shared library"),
  (80, "Accessing a corrupted shared library"),
  (81, ".lib section in a.out corrupted"),
  (82, "Attempting to link in too many shared libraries"),
  (83, "Cannot exec a shared library directly"),
  (84, "Invalid or incomplete multibyte or wide character"),
  (85, "Interrupted system call should be restarted"),
  (86, "Streams pipe error"),
  (87, "Too many users"),
  (88, "Socket operation on non-socket"),
  (89, "Destination address required"),
  (90, "Message too long"),
  (91, "Protocol wrong type for socket"),
  (92, "Protocol not available"),
  (93, "Protocol not supported"),
  (94, "Socket type not supported"),
  (95, "Operation not supported"),
  (96, "Protocol family not supported"),
  (97, "Address family not supported by protocol"),
  (98, "Address already in use"),
  (99, "Cannot assign requested address"),
  (100, "Network is down"),
  (101, "Network is unreachable"),
  (102, "Network dropped connection on reset"),
  (103, "Software caused connection abort"),
  (104, "Connection reset by peer"),
  (105, "No buffer space available"),
  (106, "Transport endpoint is already connected"),
  (107, "Transport endpoint is not connected"),
  (108, "Cannot send after transport endpoint shutdown"),
  (109, "Too many references: cannot splice"),
  (110, "Connection timed out"),
  (111, "Connection refused"),
  (112, "Host is down"),
  (113, "No route to host"),
  (114, "Operation already in progress"),
  (115, "Operation now in progress"),
  (116, "Stale file handle"),
  (117, "Structure needs cleaning"),
  (118, "Not a XENIX named type file"),
  (119, "No XENIX semaphores available"),
  (120, "Is a named type file"),
  (121, "Remote I/O error"),
  (122, "Disk quota exceeded"),
  (123, "No medium found"),
  (124, "Wrong medium type"),
  (125, "Operation canceled"),
  (126, "Required key not available"),
  (127, "Key has expired"),
  (128, "Key has been revoked"),
  (129, "Key was rejected by service"),
  (130, "Owner died"),
  (131, "State not recoverable"),
  (132, "Operation not possible due to RF-kill"),
  (133, "Memory page has hardware error")]

/-- The text of an error number. -/
def text (e : Errno) : String :=
  match texts.lookup e.number with
  | some t => t
  | none => "Unknown error " ++ toString e.number

end Errno

/-! ## 2. Kinds of failure -/

/-- What sort of failure it was, whatever reported it. -/
inductive ErrorKind where
  | addrInUse
  | addrNotAvailable
  | alreadyExists
  | argumentListTooLong
  | brokenPipe
  | connectionAborted
  | connectionRefused
  | connectionReset
  | crossesDevices
  | deadlock
  | directoryNotEmpty
  | executableFileBusy
  | fileTooLarge
  | filesystemLoop
  | hostUnreachable
  | inProgress
  | inputOutputError
  | interrupted
  | invalidData
  | invalidFilename
  | invalidInput
  | isADirectory
  | networkDown
  | networkUnreachable
  | notADirectory
  | notConnected
  | notFound
  | notSeekable
  | other
  | outOfMemory
  | permissionDenied
  | quotaExceeded
  | readOnlyFilesystem
  | resourceBusy
  | staleNetworkFileHandle
  | storageFull
  | timedOut
  | tooManyLinks
  | tooManyOpenFiles
  | uncategorized
  | unexpectedEof
  | unsupported
  | wouldBlock
  | writeZero
deriving DecidableEq, Repr

namespace ErrorKind

/-- Every kind with its name, its description and the error numbers that mean it. -/
def table : List (ErrorKind × String × String × List Int) := [
  (.addrInUse, "AddrInUse", "address in use", [98]),
  (.addrNotAvailable, "AddrNotAvailable", "address not available", [99]),
  (.alreadyExists, "AlreadyExists", "entity already exists", [17]),
  (.argumentListTooLong, "ArgumentListTooLong", "argument list too long", [7]),
  (.brokenPipe, "BrokenPipe", "broken pipe", [32]),
  (.connectionAborted, "ConnectionAborted", "connection aborted", [103]),
  (.connectionRefused, "ConnectionRefused", "connection refused", [111]),
  (.connectionReset, "ConnectionReset", "connection reset", [104]),
  (.crossesDevices, "CrossesDevices", "cross-device link or rename", [18]),
  (.deadlock, "Deadlock", "deadlock", [35]),
  (.directoryNotEmpty, "DirectoryNotEmpty", "directory not empty", [39]),
  (.executableFileBusy, "ExecutableFileBusy", "executable file busy", [26]),
  (.fileTooLarge, "FileTooLarge", "file too large", [27]),
  (.filesystemLoop, "FilesystemLoop",
    "filesystem loop or indirection limit (e.g. symlink loop)", [40]),
  (.hostUnreachable, "HostUnreachable", "host unreachable", [113]),
  (.inProgress, "InProgress", "in progress", [115]),
  (.inputOutputError, "InputOutputError", "input/output error", [5]),
  (.interrupted, "Interrupted", "operation interrupted", [4]),
  (.invalidData, "InvalidData", "invalid data", []),
  (.invalidFilename, "InvalidFilename", "invalid filename", [36]),
  (.invalidInput, "InvalidInput", "invalid input parameter", [22]),
  (.isADirectory, "IsADirectory", "is a directory", [21]),
  (.networkDown, "NetworkDown", "network down", [100]),
  (.networkUnreachable, "NetworkUnreachable", "network unreachable", [101]),
  (.notADirectory, "NotADirectory", "not a directory", [20]),
  (.notConnected, "NotConnected", "not connected", [107]),
  (.notFound, "NotFound", "entity not found", [2]),
  (.notSeekable, "NotSeekable", "seek on unseekable file", [29]),
  (.other, "Other", "other error", []),
  (.outOfMemory, "OutOfMemory", "out of memory", [12]),
  (.permissionDenied, "PermissionDenied", "permission denied", [13, 1]),
  (.quotaExceeded, "QuotaExceeded", "quota exceeded", [122]),
  (.readOnlyFilesystem, "ReadOnlyFilesystem", "read-only filesystem or storage medium", [30]),
  (.resourceBusy, "ResourceBusy", "resource busy", [16]),
  (.staleNetworkFileHandle, "StaleNetworkFileHandle", "stale network file handle", [116]),
  (.storageFull, "StorageFull", "no storage space", [28]),
  (.timedOut, "TimedOut", "timed out", [110]),
  (.tooManyLinks, "TooManyLinks", "too many links", [31]),
  (.tooManyOpenFiles, "TooManyOpenFiles", "too many open files", [23, 24]),
  (.uncategorized, "Uncategorized", "uncategorized error", []),
  (.unexpectedEof, "UnexpectedEof", "unexpected end of file", []),
  (.unsupported, "Unsupported", "unsupported", [38, 95]),
  (.wouldBlock, "WouldBlock", "operation would block", [11]),
  (.writeZero, "WriteZero", "write zero", [])]

/-- The kind with its row of the table. -/
def row (k : ErrorKind) : String × String × List Int :=
  (table.lookup k).getD ("", "", [])

/-- The name of the kind. -/
def name (k : ErrorKind) : String := k.row.1

/-- What a failure of this kind is called when nothing else is known about it. -/
def description (k : ErrorKind) : String := k.row.2.1

/-- The kind of that name. -/
def ofName? (s : String) : Option ErrorKind :=
  (table.find? fun (_, name, _) => name == s).map (·.1)

/-- The kind of an error number; a number that belongs to no kind is uncategorized. -/
def ofErrno (e : Errno) : ErrorKind :=
  match table.find? fun (_, _, _, numbers) => numbers.contains e.number with
  | some (k, _) => k
  | none => .uncategorized

end ErrorKind

/-! ## 3. Failures -/

/-- Why an operation of the system failed. -/
inductive SystemError where
  /-- The system gave an error number. -/
  | os (errno : Errno)
  /-- Only the kind is known. -/
  | simple (kind : ErrorKind)
  /-- A kind with a text of its own. -/
  | custom (kind : ErrorKind) (text : String)
deriving DecidableEq, Repr

namespace SystemError

/-- What the failure is called. -/
def text : SystemError → String
  | os e => e.text ++ " (os error " ++ toString e.number ++ ")"
  | simple k => k.description
  | custom _ t => t

/-- The kind of the failure. -/
def kind : SystemError → ErrorKind
  | os e => .ofErrno e
  | simple k => k
  | custom k _ => k

/-- The error number, where the system gave one. -/
def errno? : SystemError → Option Errno
  | os e => some e
  | _ => none

/-- A text handed to the system may not hold a NUL character. -/
def nulByte : SystemError := custom .invalidInput "nul byte found in provided data"

end SystemError

end TidyTree
