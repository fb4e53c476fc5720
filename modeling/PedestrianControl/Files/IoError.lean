/-!
# Errors of the operating system

An error of a file or connection is known by its kind, which decides how it is treated, and by the text
that names it in messages.
-/

namespace PedestrianControl

/-- The kinds of operating system errors that the program tells apart. -/
inductive IoErrorKind
  | notFound
  | isADirectory
  | notADirectory
  | alreadyExists
  | fileNameTooLong
  | invalidInput
  | invalidData
  | permissionDenied
  | interrupted
  | unexpectedEnd
  | connectionReset
  | connectionAborted
  | brokenPipe
  | wouldBlock
  | timedOut
  | networkUnreachable
  | addressNotAvailable
  | threadRefused
  | uncategorized
deriving DecidableEq, Inhabited, Repr

/-- An operating system error: its kind and its text. -/
structure IoError where
  kind : IoErrorKind
  text : String
deriving DecidableEq, Inhabited, Repr

namespace IoError

/-- The error of a system call, by its text and number. -/
def ofNumber (kind : IoErrorKind) (description : String) (number : Nat) : IoError :=
  ⟨kind, s!"{description} (os error {number})"⟩

/-- A path leads nowhere. -/
def notFound : IoError := ofNumber .notFound "No such file or directory" 2

/-- What should be made is there already. -/
def alreadyExists : IoError := ofNumber .alreadyExists "File exists" 17

/-- A path goes on below something that is no directory. -/
def notADirectory : IoError := ofNumber .notADirectory "Not a directory" 20

/-- A directory stands where a file is needed. -/
def isADirectory : IoError := ofNumber .isADirectory "Is a directory" 21

/-- A path or one of its components is too long. -/
def fileNameTooLong : IoError := ofNumber .fileNameTooLong "File name too long" 36

/-- An address that this machine does not have. -/
def addressNotAvailable : IoError :=
  ofNumber .addressNotAvailable "Cannot assign requested address" 99

/-- No route leads to the address. -/
def networkUnreachable : IoError := ofNumber .networkUnreachable "Network is unreachable" 101

/-- A path holds the character that ends it for the operating system. -/
def nulInPath : IoError := ⟨.invalidInput, "file name contained an unexpected NUL byte"⟩

/-- A file that should hold text does not. -/
def notText : IoError := ⟨.invalidData, "stream did not contain valid UTF-8"⟩

/-- A socket address without a port. -/
def noPort : IoError := ⟨.invalidInput, "invalid socket address"⟩

/-- A socket address with a port that is no number. -/
def badPort : IoError := ⟨.invalidInput, "invalid port value"⟩

/-- A host name that no address is known for. -/
def unknownHost : IoError :=
  ⟨.uncategorized,
    "failed to lookup address information: Temporary failure in name resolution"⟩

/-- The read should be tried again later; a connection on which nothing arrives in time. -/
def wouldBlock : IoError := ofNumber .wouldBlock "Resource temporarily unavailable" 11

/-- The peer went away, rather than anything being wrong. -/
def isDisconnect (e : IoError) : Bool :=
  match e.kind with
  | .unexpectedEnd | .connectionReset | .connectionAborted | .brokenPipe => true
  | _ => false

/-- The peer kept silent for longer than it may. -/
def isTimeout (e : IoError) : Bool :=
  match e.kind with
  | .wouldBlock | .timedOut => true
  | _ => false

end IoError

end PedestrianControl
