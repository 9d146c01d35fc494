import Switchboard.Host.FileTree
import Switchboard.Network.Address
import Switchboard.Network.Connection

/-!
# Hosts

What a program finds on the host that runs it: a name, files, and a network.
-/

namespace Switchboard

/-- A host. -/
structure Host where
  name : String
  files : FileTree
  /-- The directory for settings of the user, if there is one. -/
  userDirectory : Option String
  /-- Names of hosts with their addresses. -/
  addresses : List (String × IpAddress)
  /-- Where others already wait for connections. -/
  listening : List SocketAddress
  /-- What arrives over a connection to an address, if that can be reached. -/
  connect : SocketAddress → Except OsError Inbound

namespace IpAddress

/-- Whether this stands for all interfaces. -/
def isAny : IpAddress → Bool
  | .v4 a b c d => a = 0 && b = 0 && c = 0 && d = 0
  | .v6 groups _ => groups.all (· = 0)

/-- Whether this is the host's own address for talking to itself. -/
def isLoopback : IpAddress → Bool
  | .v4 a _ _ _ => a = 127
  | .v6 groups _ => groups.toList = [0, 0, 0, 0, 0, 0, 0, 1]

end IpAddress

namespace Host

/-- A host without a network: nothing can be reached. -/
def offline (name : String) (files : FileTree) (userDirectory : Option String) : Host where
  name := name
  files := files
  userDirectory := userDirectory
  addresses := [("localhost", .v4 127 0 0 1)]
  listening := []
  connect := fun _ => .error .networkUnreachable

/-- The address of a host, given by numbers or by a name. -/
def resolve (h : Host) (host : String) (port : UInt16) : Except IoError SocketAddress :=
  match SocketAddress.resolve? host port with
  | some a => .ok a
  | none =>
    match h.addresses.lookup host with
    | some ip => .ok ⟨ip, port⟩
    | none => .error .unknownHost

/-- Whether one listener takes connections that are meant for another. -/
def overlaps (a b : SocketAddress) : Bool :=
  a.port ≠ 0 && a.port = b.port && (a.ip = b.ip || a.ip.isAny || b.ip.isAny)

/-- Waits for connections at an address of the host. Port zero stands for one that is free. -/
def listen (h : Host) (a : SocketAddress) : Except OsError Unit :=
  if !a.ip.isAny && !a.ip.isLoopback then .error .addressNotAvailable
  else if h.listening.any (overlaps a) then .error .addressInUse
  else .ok ()

end Host

end Switchboard
