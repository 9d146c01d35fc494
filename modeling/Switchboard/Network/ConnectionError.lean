import Switchboard.Codec
import Switchboard.Host.OsError

/-!
# Errors of a connection
-/

namespace Switchboard

/-- Why a connection cannot be made, or cannot send or receive. -/
inductive ConnectionError
  | io (e : IoError)
  | codec (e : CodecError)
  | frameTooLarge (length limit : Nat)
  | closed
  | timeout
  | sendChannelClosed
  deriving DecidableEq, Repr

def ConnectionError.message : ConnectionError → String
  | .io e => "IO error: " ++ e.message
  | .codec e => "Codec error: " ++ e.message
  | .frameTooLarge n limit => s!"Frame too large: {n} bytes (max: {limit})"
  | .closed => "Connection closed"
  | .timeout => "Connection timeout"
  | .sendChannelClosed => "Send channel closed"

end Switchboard
