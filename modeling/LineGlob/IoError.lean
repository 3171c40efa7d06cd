/-
Failures of reading and writing.

What the program does about a failure depends on its kind alone; the text is for the
reader of the message.  A failure that the system reports has a number, from which
both follow.
-/
namespace LineGlob

/-- What went wrong in reading or writing. -/
inductive IoKind where
  | addrInUse
  | addrNotAvailable
  | alreadyExists
  | argumentListTooLong
  | brokenPipe
  | connectionAborted
  | connectionRefused
  | connectionReset
  | crossesDevices
  | deadlock
  | directoryNotEmpty
  | executableFileBusy
  | fileTooLarge
  | filesystemLoop
  | hostUnreachable
  | inProgress
  | interrupted
  | invalidData
  | invalidFilename
  | invalidInput
  | isADirectory
  | networkDown
  | networkUnreachable
  | notADirectory
  | notConnected
  | notFound
  | notSeekable
  | other
  | outOfMemory
  | permissionDenied
  | quotaExceeded
  | readOnlyFilesystem
  | resourceBusy
  | staleNetworkFileHandle
  | storageFull
  | timedOut
  | tooManyLinks
  | uncategorized
  | unexpectedEof
  | unsupported
  | wouldBlock
  | writeZero
deriving DecidableEq, Repr

namespace IoKind

/-- The text for a failure of which nothing but the kind is known. -/
def description : IoKind → String
  | addrInUse => "address in use"
  | addrNotAvailable => "address not available"
  | alreadyExists => "entity already exists"
  | argumentListTooLong => "argument list too long"
  | brokenPipe => "broken pipe"
  | connectionAborted => "connection aborted"
  | connectionRefused => "connection refused"
  | connectionReset => "connection reset"
  | crossesDevices => "cross-device link or rename"
  | deadlock => "deadlock"
  | directoryNotEmpty => "directory not empty"
  | executableFileBusy => "executable file busy"
  | fileTooLarge => "file too large"
  | filesystemLoop => "filesystem loop or indirection limit (e.g. symlink loop)"
  | hostUnreachable => "host unreachable"
  | inProgress => "in progress"
  | interrupted => "operation interrupted"
  | invalidData => "invalid data"
  | invalidFilename => "invalid filename"
  | invalidInput => "invalid input parameter"
  | isADirectory => "is a directory"
  | networkDown => "network down"
  | networkUnreachable => "network unreachable"
  | notADirectory => "not a directory"
  | notConnected => "not connected"
  | notFound => "entity not found"
  | notSeekable => "seek on unseekable file"
  | other => "other error"
  | outOfMemory => "out of memory"
  | permissionDenied => "permission denied"
  | quotaExceeded => "quota exceeded"
  | readOnlyFilesystem => "read-only filesystem or storage medium"
  | resourceBusy => "resource busy"
  | staleNetworkFileHandle => "stale network file handle"
  | storageFull => "no storage space"
  | timedOut => "timed out"
  | tooManyLinks => "too many links"
  | uncategorized => "uncategorized error"
  | unexpectedEof => "unexpected end of file"
  | unsupported => "unsupported"
  | wouldBlock => "operation would block"
  | writeZero => "write zero"

/-- The kind of the system's error of the given number. -/
def ofErrno : Nat → IoKind
  | 1 | 13 => permissionDenied
  | 2 => notFound
  | 4 => interrupted
  | 7 => argumentListTooLong
  | 11 => wouldBlock
  | 12 => outOfMemory
  | 16 => resourceBusy
  | 17 => alreadyExists
  | 18 => crossesDevices
  | 20 => notADirectory
  | 21 => isADirectory
  | 22 => invalidInput
  | 26 => executableFileBusy
  | 27 => fileTooLarge
  | 28 => storageFull
  | 29 => notSeekable
  | 30 => readOnlyFilesystem
  | 31 => tooManyLinks
  | 32 => brokenPipe
  | 35 => deadlock
  | 36 => invalidFilename
  | 38 | 95 => unsupported
  | 39 => directoryNotEmpty
  | 40 => filesystemLoop
  | 98 => addrInUse
  | 99 => addrNotAvailable
  | 100 => networkDown
  | 101 => networkUnreachable
  | 103 => connectionAborted
  | 104 => connectionReset
  | 107 => notConnected
  | 110 => timedOut
  | 111 => connectionRefused
  | 113 => hostUnreachable
  | 115 => inProgress
  | 116 => staleNetworkFileHandle
  | 122 => quotaExceeded
  | _ => uncategorized

end IoKind

/-- A failure of reading or writing. -/
structure IoError where
  kind : IoKind
  text : String
deriving DecidableEq, Repr

namespace IoError

/-- The failure of which only the kind is known. -/
def ofKind (kind : IoKind) : IoError :=
  ⟨kind, kind.description⟩

/-- The failure that the system reports by a number and a description of its own. -/
def ofSystem (errno : Nat) (description : String) : IoError :=
  ⟨.ofErrno errno, description ++ " (os error " ++ toString errno ++ ")"⟩

/-- Nothing is there under a name. -/
def missing : IoError := ofSystem 2 "No such file or directory"

/-- A name goes on below something that is no directory. -/
def belowFile : IoError := ofSystem 20 "Not a directory"

/-- A name is longer than the system takes. -/
def tooLong : IoError := ofSystem 36 "File name too long"

/-- A name holds the byte that ends names. -/
def nulInName : IoError := ⟨.invalidInput, "file name contained an unexpected NUL byte"⟩

end IoError

end LineGlob
