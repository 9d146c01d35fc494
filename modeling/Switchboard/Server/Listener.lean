import Switchboard.Host.Basic

/-!
# Listening

A server waits for connections at the interface and the port of its settings.
-/

namespace Switchboard

/-- Why a server does not start. -/
inductive ServerError
  | io (e : IoError)
  | bindFailed (address : String) (e : IoError)
  deriving DecidableEq, Repr

def ServerError.message : ServerError → String
  | .io e => "IO error: " ++ e.message
  | .bindFailed address e => s!"Bind failed: Failed to bind to {address}: {e.message}"

/-- The address at which a server waits, as a text. -/
def NetworkConfig.listenText (c : NetworkConfig) : String :=
  s!"{c.bindAddress}:{c.port}"

/-- Starts to wait for connections. -/
def Host.listenWith (h : Host) (c : NetworkConfig) : Except ServerError Unit :=
  (do
    let a ← h.resolve c.bindAddress c.port
    (h.listen a).mapError .os : Except IoError Unit).mapError (.bindFailed c.listenText)

end Switchboard
