import Switchboard.Network.Config
import Switchboard.Router.Route

/-!
# Settings

The settings of a node, in four sections. Every setting has a default; the default name of a node is
the name of its host.
-/

namespace Switchboard

/-- Settings of the node itself. -/
structure GeneralConfig where
  /-- The name that people know the node by. -/
  name : String
  /-- Whether to log more than usual. -/
  verbose : Bool := false
  /-- The file that log records are added to. -/
  logFile : Option String := none
  deriving DecidableEq, Repr

/-- Settings that both sides of a connection have to share. -/
structure ProtocolConfig where
  byteOrder : ByteOrder := .big
  maxFrameSize : UInt64 := defaultMaxFrameSize
  deriving DecidableEq, Repr

/-- Settings of the listening side. -/
structure ListenConfig where
  port : UInt16 := defaultPort
  /-- The interface to listen on; all of them if there is none. -/
  bindAddress : Option String := none
  connectTimeoutMs : UInt64 := defaultConnectTimeout
  deriving DecidableEq, Repr

/-- Settings of the router. -/
structure RouterConfig where
  workers : UInt64 := UInt64.ofNat defaultWorkers
  deriving DecidableEq, Repr

/-- The settings of a node. -/
structure Config where
  general : GeneralConfig
  protocol : ProtocolConfig := {}
  network : ListenConfig := {}
  router : RouterConfig := {}
  deriving DecidableEq, Repr

namespace Config

/-- The settings of a node for which nothing is set. -/
def default (hostName : String) : Config where
  general := { name := hostName }

/-- The settings as a server or a client needs them. -/
def networkConfig (c : Config) : NetworkConfig where
  bindAddress := c.network.bindAddress.getD anyInterface
  port := c.network.port
  byteOrder := c.protocol.byteOrder
  maxFrameSize := c.protocol.maxFrameSize
  connectTimeoutMs := c.network.connectTimeoutMs

/-- Settings to start from. -/
def sample : Config where
  general := { name := "lobby-1" }
  protocol := { byteOrder := .little }

end Config

end Switchboard
