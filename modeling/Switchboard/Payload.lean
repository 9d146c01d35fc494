import Switchboard.Payload.Binary
import Switchboard.Payload.Json.Reader
import Switchboard.Payload.Json.Writer
import Switchboard.Schema.Basic

/-!
# Payloads

The bytes of a message's contents in the format of its schema.
-/

namespace Switchboard

/-- Why contents cannot be written or read. -/
inductive PayloadError
  | binary (fault : Binary.Fault)
  | json (error : Json.Error)
  /-- A map has keys that are no texts. -/
  | jsonKey
  deriving DecidableEq, Repr

namespace PayloadError

/-- The format whose rules were broken. -/
def format : PayloadError → Format
  | .binary _ => .binary
  | .json _ | .jsonKey => .json

def message (e : PayloadError) : String :=
  e.format.name ++ ": " ++
    match e with
    | .binary fault => fault.message
    | .json error => error.message
    | .jsonKey => Json.Cause.keyNotText.message

end PayloadError

namespace Schema

/-- The payload of a value. -/
def write (s : Schema) (v : s.Value) : Except PayloadError Bytes :=
  match s.format with
  | .binary => .ok (s.shape.toBinary v)
  | .json =>
    match s.shape.toJson? v with
    | some bs => .ok bs
    | none => .error .jsonKey

/-- The value of a payload. What follows a binary value is ignored. -/
def read (s : Schema) (bs : Bytes) : Except PayloadError s.Value :=
  match s.format with
  | .binary =>
    match s.shape.readBinary bs with
    | .ok (v, _) => .ok v
    | .error fault => .error (.binary fault)
  | .json => (s.shape.ofJson bs).mapError .json

end Schema

end Switchboard
