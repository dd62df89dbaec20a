import VectorLink.Span
import VectorLink.Text.Literal

/-! Why an operation fails.

`IoFault` is what a transport reports; `Fault` is what a caller of the client sees. Three
questions about a fault have fixed answers: whether the operation may be tried again on a fresh
link, whether it has cost the link, and whether the caller alone is to blame, nothing having been
sent.
-/

set_option autoImplicit false

namespace VectorLink

inductive IoKind where
  | notFound
  | permissionDenied
  | connectionRefused
  | connectionReset
  | hostUnreachable
  | networkUnreachable
  | connectionAborted
  | notConnected
  | addrInUse
  | addrNotAvailable
  | networkDown
  | brokenPipe
  | alreadyExists
  | wouldBlock
  | notADirectory
  | isADirectory
  | directoryNotEmpty
  | readOnlyFilesystem
  | staleNetworkFileHandle
  | invalidInput
  | invalidData
  | timedOut
  | writeZero
  | storageFull
  | notSeekable
  | quotaExceeded
  | fileTooLarge
  | resourceBusy
  | executableFileBusy
  | deadlock
  | crossesDevices
  | tooManyLinks
  | invalidFilename
  | argumentListTooLong
  | interrupted
  | unsupported
  | unexpectedEof
  | outOfMemory
  | other
  deriving DecidableEq, Repr

namespace IoKind

def name : IoKind → String
  | notFound => "NotFound"
  | permissionDenied => "PermissionDenied"
  | connectionRefused => "ConnectionRefused"
  | connectionReset => "ConnectionReset"
  | hostUnreachable => "HostUnreachable"
  | networkUnreachable => "NetworkUnreachable"
  | connectionAborted => "ConnectionAborted"
  | notConnected => "NotConnected"
  | addrInUse => "AddrInUse"
  | addrNotAvailable => "AddrNotAvailable"
  | networkDown => "NetworkDown"
  | brokenPipe => "BrokenPipe"
  | alreadyExists => "AlreadyExists"
  | wouldBlock => "WouldBlock"
  | notADirectory => "NotADirectory"
  | isADirectory => "IsADirectory"
  | directoryNotEmpty => "DirectoryNotEmpty"
  | readOnlyFilesystem => "ReadOnlyFilesystem"
  | staleNetworkFileHandle => "StaleNetworkFileHandle"
  | invalidInput => "InvalidInput"
  | invalidData => "InvalidData"
  | timedOut => "TimedOut"
  | writeZero => "WriteZero"
  | storageFull => "StorageFull"
  | notSeekable => "NotSeekable"
  | quotaExceeded => "QuotaExceeded"
  | fileTooLarge => "FileTooLarge"
  | resourceBusy => "ResourceBusy"
  | executableFileBusy => "ExecutableFileBusy"
  | deadlock => "Deadlock"
  | crossesDevices => "CrossesDevices"
  | tooManyLinks => "TooManyLinks"
  | invalidFilename => "InvalidFilename"
  | argumentListTooLong => "ArgumentListTooLong"
  | interrupted => "Interrupted"
  | unsupported => "Unsupported"
  | unexpectedEof => "UnexpectedEof"
  | outOfMemory => "OutOfMemory"
  | other => "Other"

def all : List IoKind :=
  [notFound, permissionDenied, connectionRefused, connectionReset, hostUnreachable,
    networkUnreachable, connectionAborted, notConnected, addrInUse, addrNotAvailable, networkDown,
    brokenPipe, alreadyExists, wouldBlock, notADirectory, isADirectory, directoryNotEmpty,
    readOnlyFilesystem, staleNetworkFileHandle, invalidInput, invalidData, timedOut, writeZero,
    storageFull, notSeekable, quotaExceeded, fileTooLarge, resourceBusy, executableFileBusy,
    deadlock, crossesDevices, tooManyLinks, invalidFilename, argumentListTooLong, interrupted,
    unsupported, unexpectedEof, outOfMemory, other]

def ofName? (name : String) : Option IoKind := all.find? (fun kind => kind.name = name)

def isDisconnect : IoKind → Bool
  | unexpectedEof | connectionReset | connectionAborted | brokenPipe => true
  | _ => false

end IoKind

structure IoFault where
  kind : IoKind
  text : String
  deriving DecidableEq, Repr

namespace IoFault

def wroteNothing : IoFault := ⟨.writeZero, "write zero"⟩

def noRoute : IoFault := ⟨.networkUnreachable, "Network is unreachable (os error 101)"⟩

def noSuchFile : IoFault := ⟨.notFound, "No such file or directory (os error 2)"⟩

def notDirectory : IoFault := ⟨.notADirectory, "Not a directory (os error 20)"⟩

def isDirectory : IoFault := ⟨.isADirectory, "Is a directory (os error 21)"⟩

def nameTooLong : IoFault := ⟨.invalidFilename, "File name too long (os error 36)"⟩

def nulInPath : IoFault :=
  ⟨.invalidInput, "file name contained an unexpected NUL byte"⟩

def notUtf8 : IoFault := ⟨.invalidData, "stream did not contain valid UTF-8"⟩

/-- A fault with its parts. A number at the end of the text is the system's own for it. -/
def shown (fault : IoFault) : String :=
  if fault = wroteNothing then s!"Kind({fault.kind.name})"
  else match fault.text.splitOn " (os error " with
    | [message, code] =>
      s!"Os \x7b code: {code.dropEnd 1}, kind: {fault.kind.name}, message: {Text.literal message} \x7d"
    | _ => s!"Custom \x7b kind: {fault.kind.name}, error: {Text.literal fault.text} \x7d"

end IoFault

inductive Fault where
  | unreachable (address : String) (cause : IoFault)
  /-- The server closed instead of acknowledging a select. -/
  | rejected (database : String)
  /-- The stream ended inside a reply field. -/
  | peerClosed (expected received : Nat)
  | dimensionMismatch (expected actual : Nat)
  | linkClosed
  | timeout (limit : Span)
  | desynchronized
  | violation (detail : String)
  | badArgument (detail : String)
  | io (cause : IoFault)
  deriving DecidableEq, Repr

namespace Fault

/-- The failure of a write, a flush or a shutdown. How much of a reply was outstanding is not
known here, so a peer that has gone away is reported with zero counts. -/
def ofIo (cause : IoFault) : Fault := if cause.kind.isDisconnect then peerClosed 0 0 else io cause

def message : Fault → String
  | unreachable address cause => s!"Could not connect to RedBoxDb at {address}: {cause.text}"
  | rejected database => "Server rejected handshake for database '" ++ database ++ "' or disconnected"
  | peerClosed expected received =>
    s!"Server disconnected mid-response (expected {expected} bytes, received {received})"
  | dimensionMismatch expected actual => s!"Vector dim {actual} != DB dim {expected}"
  | linkClosed => "Connection is closed"
  | timeout limit => s!"Request timed out after {limit.millis}ms"
  | desynchronized => "Connection is desynchronized: a previous request did not complete"
  | violation detail => s!"Protocol violation: {detail}"
  | badArgument detail => s!"Invalid argument: {detail}"
  | io cause => s!"I/O error: {cause.text}"

def shown : Fault → String
  | unreachable address cause =>
    s!"ConnectFailed \x7b endpoint: {Text.literal address}, source: {cause.shown} \x7d"
  | rejected database => s!"HandshakeRejected \x7b database: {Text.literal database} \x7d"
  | peerClosed expected received =>
    s!"PeerClosed \x7b expected: {expected}, received: {received} \x7d"
  | dimensionMismatch expected actual =>
    s!"DimensionMismatch \x7b expected: {expected}, actual: {actual} \x7d"
  | linkClosed => "ConnectionClosed"
  | timeout limit => s!"Timeout({limit.shown})"
  | desynchronized => "Desynchronized"
  | violation detail => s!"ProtocolViolation({Text.literal detail})"
  | badArgument detail => s!"InvalidArgument({Text.literal detail})"
  | io cause => s!"Io({cause.shown})"

def cause? : Fault → Option IoFault
  | unreachable _ cause | io cause => some cause
  | _ => none

def chain (fault : Fault) : List String :=
  fault.message :: (fault.cause?.map IoFault.text).toList

def isRetryable : Fault → Bool
  | unreachable .. | timeout _ => true
  | _ => false

def needsReconnect : Fault → Bool
  | peerClosed .. | rejected _ | desynchronized | violation _ | timeout _ | io _ => true
  | _ => false

def isCallers : Fault → Bool
  | dimensionMismatch .. | linkClosed | badArgument _ => true
  | _ => false

end Fault

end VectorLink
