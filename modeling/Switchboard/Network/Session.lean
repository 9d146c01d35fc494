import Switchboard.Network.Address
import Switchboard.Network.ConnectionError

/-!
# Sessions

A session is what handlers know about a served connection: who it is with, and where to put
replies. Copies of a session share one mailbox. Whether the connection is over is looked at before
whether anybody still takes replies out of the mailbox.
-/

namespace Switchboard

/-- A reply on its way to the peer. -/
inductive Outbound
  | message (m : Message)
  | raw (r : RawMessage)

/-- The replies of a session, shared by all its copies. -/
structure Mailbox where
  connected : Bool
  /-- Whether somebody takes replies out. -/
  received : Bool
  /-- The replies that nobody has taken yet, oldest first. -/
  queue : List Outbound

namespace Mailbox

/-- The mailbox of a new connection. -/
def new : Mailbox :=
  ⟨true, true, []⟩

/-- Adds a reply. -/
def send (m : Mailbox) (o : Outbound) : Except ConnectionError Mailbox :=
  if !m.connected then .error .closed
  else if !m.received then .error .sendChannelClosed
  else .ok { m with queue := m.queue ++ [o] }

/-- Adds a message. -/
def reply (m : Mailbox) (message : Message) : Except ConnectionError Mailbox :=
  m.send (.message message)

/-- Adds an undecoded payload, to be framed under its own identifier. -/
def replyRaw (m : Mailbox) (r : RawMessage) : Except ConnectionError Mailbox :=
  m.send (.raw r)

/-- Notes that the connection is over. -/
def disconnect (m : Mailbox) : Mailbox :=
  { m with connected := false }

/-- Nobody takes replies out any more; those that are left are lost. -/
def dropReceiver (m : Mailbox) : Mailbox :=
  { m with received := false, queue := [] }

/-- Takes the oldest reply. -/
def receive (m : Mailbox) : Option Outbound × Mailbox :=
  match m.queue with
  | [] => (none, m)
  | o :: rest => (some o, { m with queue := rest })

end Mailbox

/-- A random identifier. -/
structure SessionId where
  bits : BitVec 128
  deriving DecidableEq

namespace SessionId

/-- The identifier that random bits give: the version and the variant have fixed places. -/
def ofRandom (bits : BitVec 128) : SessionId :=
  let version : BitVec 128 := 0x4#128 <<< 76
  let versionMask : BitVec 128 := 0xf#128 <<< 76
  let variant : BitVec 128 := 0x2#128 <<< 62
  let variantMask : BitVec 128 := 0x3#128 <<< 62
  ⟨(bits &&& ~~~versionMask ||| version) &&& ~~~variantMask ||| variant⟩

/-- How the identifier was made; random ones have version 4. -/
def version (i : SessionId) : Nat :=
  (i.bits >>> 76 &&& 0xf#128).toNat

end SessionId

/-- Who a served connection is with. -/
structure Session where
  id : SessionId
  peer : SocketAddress
  deriving DecidableEq

end Switchboard
