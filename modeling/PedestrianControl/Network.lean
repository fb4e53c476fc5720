import PedestrianControl.Files.IoError
import PedestrianControl.Decimal.Reading

/-!
# Addresses and the network

An address to listen on is a host and a port with a colon between them. Of the network only two things are
known: which hosts this machine is, and whether a connection to itself can be made.
-/

namespace PedestrianControl

/-- Whether this machine can connect to itself. -/
inductive Network
  | connected
  /-- No connection can be made, not even to an address that is listened on. -/
  | unreachable
deriving DecidableEq, Inhabited, Repr

namespace Network

/-- Tries to connect to a server that is listening. -/
def connect : Network → Except IoError Unit
  | connected => .ok ()
  | unreachable => .error .networkUnreachable

end Network

namespace ListenAddress

/-- A part of an address in figures. -/
def octet? (text : List Char) : Option Nat :=
  match text with
  | '0' :: _ :: _ => none
  | '+' :: _ => none
  | text => (Decimal.word64? text).filter (· < 256)

/-- The four numbers of an address in figures. -/
def octets? (host : List Char) : Option (List Nat) := do
  let octets ← (host.splitOn '.').mapM octet?
  if octets.length = 4 then some octets else none

/-- Whether the host is this machine, or the error that it is not. -/
def checkHost (host : List Char) : Except IoError Unit :=
  let name := String.ofList host
  if name = "localhost" || name = "[::1]" || name = "[::]" then .ok ()
  else
    match octets? host with
    | some [127, _, _, _] => .ok ()
    | some [0, 0, 0, 0] => .ok ()
    | some _ => .error .addressNotAvailable
    | none => .error .unknownHost

/-- Checks that an address can be listened on. -/
def check (address : String) : Except IoError Unit :=
  match address.toList.reverse.span (· != ':') with
  | (_, []) => .error .noPort
  | (port, _ :: host) =>
    match (Decimal.word64? port.reverse).filter (· < 65536) with
    | none => .error .badPort
    | some _ => checkHost host.reverse

end ListenAddress

end PedestrianControl
