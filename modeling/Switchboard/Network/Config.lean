import Switchboard.ByteOrder

/-!
# Network settings

What a server or a client has to know to listen or to connect.
-/

namespace Switchboard

/-- The port of a server that no other one is given for. -/
def defaultPort : UInt16 :=
  24900

/-- The longest frame unless another limit is set. -/
def defaultMaxFrameSize : UInt64 :=
  65536

/-- Milliseconds to wait for a connection unless set otherwise. -/
def defaultConnectTimeout : UInt64 :=
  5000

/-- All interfaces. -/
def anyInterface : String :=
  "0.0.0.0"

/-- Settings of a server or a client. -/
structure NetworkConfig where
  /-- The interface to listen on. -/
  bindAddress : String := anyInterface
  /-- The port to listen on or to connect to. -/
  port : UInt16 := defaultPort
  /-- The byte order of lengths and identifiers. -/
  byteOrder : ByteOrder := .big
  /-- The longest frame: identifier and payload. -/
  maxFrameSize : UInt64 := defaultMaxFrameSize
  /-- Milliseconds to wait for a connection. -/
  connectTimeoutMs : UInt64 := defaultConnectTimeout
  deriving DecidableEq, Repr

namespace NetworkConfig

/-- The default settings on a port. -/
def onPort (port : UInt16) : NetworkConfig :=
  { port := port }

def withBindAddress (c : NetworkConfig) (a : String) : NetworkConfig :=
  { c with bindAddress := a }

def withByteOrder (c : NetworkConfig) (o : ByteOrder) : NetworkConfig :=
  { c with byteOrder := o }

def withMaxFrameSize (c : NetworkConfig) (n : UInt64) : NetworkConfig :=
  { c with maxFrameSize := n }

end NetworkConfig

end Switchboard
