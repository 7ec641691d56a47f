/-!
# Kinds of system failure and error numbers

A failed system call answers an error number.  Each number has a symbolic name,
the wording of the kernel header, the wording of the system library and a portable
kind of failure.  This module holds the kinds, the table of the numbers, and the
failures built from them.
-/

namespace BoundedStream

/-- The portable class of a failed system request. -/
inductive FailureKind where
  | addressInUse
  | addressNotAvailable
  | alreadyExists
  | argumentListTooLong
  | brokenPipe
  | connectionAborted
  | connectionRefused
  | connectionReset
  | crossesDevices
  | deadlock
  | directoryNotEmpty
  | executableBusy
  | fileTooLarge
  | linkLoop
  | hostUnreachable
  | inProgress
  | inputOutput
  | interrupted
  | invalidData
  | invalidFilename
  | invalidInput
  | isDirectory
  | networkDown
  | networkUnreachable
  | notDirectory
  | notConnected
  | notFound
  | notSeekable
  | other
  | outOfMemory
  | permissionDenied
  | quotaExceeded
  | readOnlyFilesystem
  | resourceBusy
  | staleNetworkHandle
  | storageFull
  | timedOut
  | tooManyLinks
  | uncategorized
  | unexpectedEnd
  | unsupported
  | wouldBlock
  | writeZero
deriving DecidableEq, Repr, Inhabited

namespace FailureKind

def name : FailureKind → String
  | addressInUse => "AddrInUse"
  | addressNotAvailable => "AddrNotAvailable"
  | alreadyExists => "AlreadyExists"
  | argumentListTooLong => "ArgumentListTooLong"
  | brokenPipe => "BrokenPipe"
  | connectionAborted => "ConnectionAborted"
  | connectionRefused => "ConnectionRefused"
  | connectionReset => "ConnectionReset"
  | crossesDevices => "CrossesDevices"
  | deadlock => "Deadlock"
  | directoryNotEmpty => "DirectoryNotEmpty"
  | executableBusy => "ExecutableFileBusy"
  | fileTooLarge => "FileTooLarge"
  | linkLoop => "FilesystemLoop"
  | hostUnreachable => "HostUnreachable"
  | inProgress => "InProgress"
  | inputOutput => "InputOutputError"
  | interrupted => "Interrupted"
  | invalidData => "InvalidData"
  | invalidFilename => "InvalidFilename"
  | invalidInput => "InvalidInput"
  | isDirectory => "IsADirectory"
  | networkDown => "NetworkDown"
  | networkUnreachable => "NetworkUnreachable"
  | notDirectory => "NotADirectory"
  | notConnected => "NotConnected"
  | notFound => "NotFound"
  | notSeekable => "NotSeekable"
  | other => "Other"
  | outOfMemory => "OutOfMemory"
  | permissionDenied => "PermissionDenied"
  | quotaExceeded => "QuotaExceeded"
  | readOnlyFilesystem => "ReadOnlyFilesystem"
  | resourceBusy => "ResourceBusy"
  | staleNetworkHandle => "StaleNetworkFileHandle"
  | storageFull => "StorageFull"
  | timedOut => "TimedOut"
  | tooManyLinks => "TooManyLinks"
  | uncategorized => "Uncategorized"
  | unexpectedEnd => "UnexpectedEof"
  | unsupported => "Unsupported"
  | wouldBlock => "WouldBlock"
  | writeZero => "WriteZero"

/-- The description of a kind without an error number. -/
def text : FailureKind → String
  | addressInUse => "address in use"
  | addressNotAvailable => "address not available"
  | alreadyExists => "entity already exists"
  | argumentListTooLong => "argument list too long"
  | brokenPipe => "broken pipe"
  | connectionAborted => "connection aborted"
  | connectionRefused => "connection refused"
  | connectionReset => "connection reset"
  | crossesDevices => "cross-device link or rename"
  | deadlock => "deadlock"
  | directoryNotEmpty => "directory not empty"
  | executableBusy => "executable file busy"
  | fileTooLarge => "file too large"
  | linkLoop => "filesystem loop or indirection limit (e.g. symlink loop)"
  | hostUnreachable => "host unreachable"
  | inProgress => "in progress"
  | inputOutput => "input/output error"
  | interrupted => "operation interrupted"
  | invalidData => "invalid data"
  | invalidFilename => "invalid filename"
  | invalidInput => "invalid input parameter"
  | isDirectory => "is a directory"
  | networkDown => "network down"
  | networkUnreachable => "network unreachable"
  | notDirectory => "not a directory"
  | notConnected => "not connected"
  | notFound => "entity not found"
  | notSeekable => "seek on unseekable file"
  | other => "other error"
  | outOfMemory => "out of memory"
  | permissionDenied => "permission denied"
  | quotaExceeded => "quota exceeded"
  | readOnlyFilesystem => "read-only filesystem or storage medium"
  | resourceBusy => "resource busy"
  | staleNetworkHandle => "stale network file handle"
  | storageFull => "no storage space"
  | timedOut => "timed out"
  | tooManyLinks => "too many links"
  | uncategorized => "uncategorized error"
  | unexpectedEnd => "unexpected end of file"
  | unsupported => "unsupported"
  | wouldBlock => "operation would block"
  | writeZero => "write zero"

/-- Every kind, in alphabetical order of their names. -/
def all : List FailureKind :=
  [.addressInUse, .addressNotAvailable, .alreadyExists, .argumentListTooLong,
   .brokenPipe, .connectionAborted, .connectionRefused, .connectionReset,
   .crossesDevices, .deadlock, .directoryNotEmpty, .executableBusy, .fileTooLarge,
   .linkLoop, .hostUnreachable, .inProgress, .inputOutput, .interrupted, .invalidData,
   .invalidFilename, .invalidInput, .isDirectory, .networkDown, .networkUnreachable,
   .notDirectory, .notConnected, .notFound, .notSeekable, .other, .outOfMemory,
   .permissionDenied, .quotaExceeded, .readOnlyFilesystem, .resourceBusy,
   .staleNetworkHandle, .storageFull, .timedOut, .tooManyLinks, .uncategorized,
   .unexpectedEnd, .unsupported, .wouldBlock, .writeZero]

def ofName? (name : String) : Option FailureKind :=
  all.find? fun kind => kind.name == name

end FailureKind

/-- An error number of the operating system, as a call answers it. -/
structure Errno where
  code : Int
deriving DecidableEq, Repr, Inhabited

namespace Errno

/-- What is known of one error number. -/
structure Entry where
  /-- The symbolic name. -/
  symbol : String
  /-- The wording of the kernel header. -/
  headerText : String
  /-- The wording of the system library. -/
  libraryText : String
  /-- The portable class. -/
  kind : FailureKind

/-- An entry on whose wording header and library agree. -/
def Entry.agreed (symbol text : String) (kind : FailureKind) : Entry :=
  ⟨symbol, text, text, kind⟩

def entries : List (Int × Entry) :=
  [(1, .agreed "EPERM" "Operation not permitted" .permissionDenied),
   (2, .agreed "ENOENT" "No such file or directory" .notFound),
   (3, .agreed "ESRCH" "No such process" .uncategorized),
   (4, .agreed "EINTR" "Interrupted system call" .interrupted),
   (5, ⟨"EIO", "I/O error",
      "Input/output error", .inputOutput⟩),
   (6, .agreed "ENXIO" "No such device or address" .uncategorized),
   (7, .agreed "E2BIG" "Argument list too long" .argumentListTooLong),
   (8, .agreed "ENOEXEC" "Exec format error" .uncategorized),
   (9, ⟨"EBADF", "Bad file number",
      "Bad file descriptor", .uncategorized⟩),
   (10, .agreed "ECHILD" "No child processes" .uncategorized),
   (11, ⟨"EAGAIN", "Try again",
      "Resource temporarily unavailable", .wouldBlock⟩),
   (12, ⟨"ENOMEM", "Out of memory",
      "Cannot allocate memory", .outOfMemory⟩),
   (13, .agreed "EACCES" "Permission denied" .permissionDenied),
   (14, .agreed "EFAULT" "Bad address" .uncategorized),
   (15, .agreed "ENOTBLK" "Block device required" .uncategorized),
   (16, .agreed "EBUSY" "Device or resource busy" .resourceBusy),
   (17, .agreed "EEXIST" "File exists" .alreadyExists),
   (18, ⟨"EXDEV", "Cross-device link",
      "Invalid cross-device link", .crossesDevices⟩),
   (19, .agreed "ENODEV" "No such device" .uncategorized),
   (20, .agreed "ENOTDIR" "Not a directory" .notDirectory),
   (21, .agreed "EISDIR" "Is a directory" .isDirectory),
   (22, .agreed "EINVAL" "Invalid argument" .invalidInput),
   (23, ⟨"ENFILE", "File table overflow",
      "Too many open files in system", .uncategorized⟩),
   (24, .agreed "EMFILE" "Too many open files" .uncategorized),
   (25, ⟨"ENOTTY", "Not a typewriter",
      "Inappropriate ioctl for device", .uncategorized⟩),
   (26, .agreed "ETXTBSY" "Text file busy" .executableBusy),
   (27, .agreed "EFBIG" "File too large" .fileTooLarge),
   (28, .agreed "ENOSPC" "No space left on device" .storageFull),
   (29, .agreed "ESPIPE" "Illegal seek" .notSeekable),
   (30, .agreed "EROFS" "Read-only file system" .readOnlyFilesystem),
   (31, .agreed "EMLINK" "Too many links" .tooManyLinks),
   (32, .agreed "EPIPE" "Broken pipe" .brokenPipe),
   (33, ⟨"EDOM", "Math argument out of domain of func",
      "Numerical argument out of domain", .uncategorized⟩),
   (34, ⟨"ERANGE", "Math result not representable",
      "Numerical result out of range", .uncategorized⟩),
   (35, ⟨"EDEADLK", "Resource deadlock would occur",
      "Resource deadlock avoided", .deadlock⟩),
   (36, .agreed "ENAMETOOLONG" "File name too long" .invalidFilename),
   (37, ⟨"ENOLCK", "No record locks available",
      "No locks available", .uncategorized⟩),
   (38, .agreed "ENOSYS" "Function not implemented" .unsupported),
   (39, .agreed "ENOTEMPTY" "Directory not empty" .directoryNotEmpty),
   (40, ⟨"ELOOP", "Too many symbolic links encountered",
      "Too many levels of symbolic links", .linkLoop⟩),
   (42, .agreed "ENOMSG" "No message of desired type" .uncategorized),
   (43, .agreed "EIDRM" "Identifier removed" .uncategorized),
   (44, .agreed "ECHRNG" "Channel number out of range" .uncategorized),
   (45, .agreed "EL2NSYNC" "Level 2 not synchronized" .uncategorized),
   (46, .agreed "EL3HLT" "Level 3 halted" .uncategorized),
   (47, .agreed "EL3RST" "Level 3 reset" .uncategorized),
   (48, .agreed "ELNRNG" "Link number out of range" .uncategorized),
   (49, .agreed "EUNATCH" "Protocol driver not attached" .uncategorized),
   (50, .agreed "ENOCSI" "No CSI structure available" .uncategorized),
   (51, .agreed "EL2HLT" "Level 2 halted" .uncategorized),
   (52, .agreed "EBADE" "Invalid exchange" .uncategorized),
   (53, .agreed "EBADR" "Invalid request descriptor" .uncategorized),
   (54, .agreed "EXFULL" "Exchange full" .uncategorized),
   (55, .agreed "ENOANO" "No anode" .uncategorized),
   (56, .agreed "EBADRQC" "Invalid request code" .uncategorized),
   (57, .agreed "EBADSLT" "Invalid slot" .uncategorized),
   (59, .agreed "EBFONT" "Bad font file format" .uncategorized),
   (60, .agreed "ENOSTR" "Device not a stream" .uncategorized),
   (61, .agreed "ENODATA" "No data available" .uncategorized),
   (62, .agreed "ETIME" "Timer expired" .uncategorized),
   (63, .agreed "ENOSR" "Out of streams resources" .uncategorized),
   (64, .agreed "ENONET" "Machine is not on the network" .uncategorized),
   (65, .agreed "ENOPKG" "Package not installed" .uncategorized),
   (66, .agreed "EREMOTE" "Object is remote" .uncategorized),
   (67, .agreed "ENOLINK" "Link has been severed" .uncategorized),
   (68, .agreed "EADV" "Advertise error" .uncategorized),
   (69, .agreed "ESRMNT" "Srmount error" .uncategorized),
   (70, .agreed "ECOMM" "Communication error on send" .uncategorized),
   (71, .agreed "EPROTO" "Protocol error" .uncategorized),
   (72, .agreed "EMULTIHOP" "Multihop attempted" .uncategorized),
   (73, .agreed "EDOTDOT" "RFS specific error" .uncategorized),
   (74, ⟨"EBADMSG", "Not a data message",
      "Bad message", .uncategorized⟩),
   (75, .agreed "EOVERFLOW" "Value too large for defined data type" .uncategorized),
   (76, .agreed "ENOTUNIQ" "Name not unique on network" .uncategorized),
   (77, .agreed "EBADFD" "File descriptor in bad state" .uncategorized),
   (78, .agreed "EREMCHG" "Remote address changed" .uncategorized),
   (79, .agreed "ELIBACC" "Can not access a needed shared library" .uncategorized),
   (80, .agreed "ELIBBAD" "Accessing a corrupted shared library" .uncategorized),
   (81, .agreed "ELIBSCN" ".lib section in a.out corrupted" .uncategorized),
   (82, .agreed "ELIBMAX" "Attempting to link in too many shared libraries" .uncategorized),
   (83, .agreed "ELIBEXEC" "Cannot exec a shared library directly" .uncategorized),
   (84, ⟨"EILSEQ", "Illegal byte sequence",
      "Invalid or incomplete multibyte or wide character", .uncategorized⟩),
   (85, .agreed "ERESTART" "Interrupted system call should be restarted" .uncategorized),
   (86, .agreed "ESTRPIPE" "Streams pipe error" .uncategorized),
   (87, .agreed "EUSERS" "Too many users" .uncategorized),
   (88, .agreed "ENOTSOCK" "Socket operation on non-socket" .uncategorized),
   (89, .agreed "EDESTADDRREQ" "Destination address required" .uncategorized),
   (90, .agreed "EMSGSIZE" "Message too long" .uncategorized),
   (91, .agreed "EPROTOTYPE" "Protocol wrong type for socket" .uncategorized),
   (92, .agreed "ENOPROTOOPT" "Protocol not available" .uncategorized),
   (93, .agreed "EPROTONOSUPPORT" "Protocol not supported" .uncategorized),
   (94, .agreed "ESOCKTNOSUPPORT" "Socket type not supported" .uncategorized),
   (95, ⟨"EOPNOTSUPP", "Operation not supported on transport endpoint",
      "Operation not supported", .unsupported⟩),
   (96, .agreed "EPFNOSUPPORT" "Protocol family not supported" .uncategorized),
   (97, .agreed "EAFNOSUPPORT" "Address family not supported by protocol" .uncategorized),
   (98, .agreed "EADDRINUSE" "Address already in use" .addressInUse),
   (99, .agreed "EADDRNOTAVAIL" "Cannot assign requested address" .addressNotAvailable),
   (100, .agreed "ENETDOWN" "Network is down" .networkDown),
   (101, .agreed "ENETUNREACH" "Network is unreachable" .networkUnreachable),
   (102, ⟨"ENETRESET", "Network dropped connection because of reset",
      "Network dropped connection on reset", .uncategorized⟩),
   (103, .agreed "ECONNABORTED" "Software caused connection abort" .connectionAborted),
   (104, .agreed "ECONNRESET" "Connection reset by peer" .connectionReset),
   (105, .agreed "ENOBUFS" "No buffer space available" .uncategorized),
   (106, .agreed "EISCONN" "Transport endpoint is already connected" .uncategorized),
   (107, .agreed "ENOTCONN" "Transport endpoint is not connected" .notConnected),
   (108, .agreed "ESHUTDOWN" "Cannot send after transport endpoint shutdown" .uncategorized),
   (109, .agreed "ETOOMANYREFS" "Too many references: cannot splice" .uncategorized),
   (110, .agreed "ETIMEDOUT" "Connection timed out" .timedOut),
   (111, .agreed "ECONNREFUSED" "Connection refused" .connectionRefused),
   (112, .agreed "EHOSTDOWN" "Host is down" .uncategorized),
   (113, .agreed "EHOSTUNREACH" "No route to host" .hostUnreachable),
   (114, .agreed "EALREADY" "Operation already in progress" .uncategorized),
   (115, .agreed "EINPROGRESS" "Operation now in progress" .inProgress),
   (116, .agreed "ESTALE" "Stale file handle" .staleNetworkHandle),
   (117, .agreed "EUCLEAN" "Structure needs cleaning" .uncategorized),
   (118, .agreed "ENOTNAM" "Not a XENIX named type file" .uncategorized),
   (119, .agreed "ENAVAIL" "No XENIX semaphores available" .uncategorized),
   (120, .agreed "EISNAM" "Is a named type file" .uncategorized),
   (121, .agreed "EREMOTEIO" "Remote I/O error" .uncategorized),
   (122, ⟨"EDQUOT", "Quota exceeded",
      "Disk quota exceeded", .quotaExceeded⟩),
   (123, .agreed "ENOMEDIUM" "No medium found" .uncategorized),
   (124, .agreed "EMEDIUMTYPE" "Wrong medium type" .uncategorized),
   (125, .agreed "ECANCELED" "Operation canceled" .uncategorized),
   (126, .agreed "ENOKEY" "Required key not available" .uncategorized),
   (127, .agreed "EKEYEXPIRED" "Key has expired" .uncategorized),
   (128, .agreed "EKEYREVOKED" "Key has been revoked" .uncategorized),
   (129, .agreed "EKEYREJECTED" "Key was rejected by service" .uncategorized),
   (130, .agreed "EOWNERDEAD" "Owner died" .uncategorized),
   (131, .agreed "ENOTRECOVERABLE" "State not recoverable" .uncategorized),
   (132, .agreed "ERFKILL" "Operation not possible due to RF-kill" .uncategorized),
   (133, .agreed "EHWPOISON" "Memory page has hardware error" .uncategorized)]

def lookup? (code : Int) : Option Entry :=
  entries.lookup code

def symbol (errno : Errno) : String :=
  ((lookup? errno.code).map Entry.symbol).getD "UnknownErrno"

def headerText (errno : Errno) : String :=
  ((lookup? errno.code).map Entry.headerText).getD "Unknown errno"

/-- A number written by its symbol and the header wording. -/
def describe (errno : Errno) : String :=
  errno.symbol ++ ": " ++ errno.headerText

def libraryText (errno : Errno) : String :=
  if errno.code = 0 then "Success" else
    ((lookup? errno.code).map Entry.libraryText).getD ("Unknown error " ++ toString errno.code)

def kind (errno : Errno) : FailureKind :=
  ((lookup? errno.code).map Entry.kind).getD .uncategorized

def noEntry : Errno := ⟨2⟩

def badDescriptor : Errno := ⟨9⟩

def tryAgain : Errno := ⟨11⟩

def alreadyExists : Errno := ⟨17⟩

def notDirectory : Errno := ⟨20⟩

def isDirectory : Errno := ⟨21⟩

def invalidArgument : Errno := ⟨22⟩

def brokenPipe : Errno := ⟨32⟩

def nameTooLong : Errno := ⟨36⟩

def linkLoop : Errno := ⟨40⟩

def ownerDied : Errno := ⟨130⟩

def notRecoverable : Errno := ⟨131⟩

end Errno

end BoundedStream
