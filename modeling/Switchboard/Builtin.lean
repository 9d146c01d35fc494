import Switchboard.Bytes
import Switchboard.Schema.Basic

/-!
# Built-in messages

The messages that every server and every client of this program knows, and their identifiers.
-/

namespace Switchboard.Builtin

/-- The name of a type of this program. -/
def typeNamed (name : String) : String :=
  "msgproc::messages::" ++ name

/-- A latency probe: a number, and the sender's clock in microseconds. -/
def ping : Schema where
  typeName := typeNamed "Ping"
  tag := "msgproc.Ping"
  format := .binary
  shape := .record "Ping" (.ofList [("seq", .u32), ("sent_at_us", .u64)])

/-- The answer to a probe, with the probe's fields. -/
def pong : Schema where
  typeName := typeNamed "Pong"
  tag := "msgproc.Pong"
  format := .binary
  shape := .record "Pong" (.ofList [("seq", .u32), ("sent_at_us", .u64)])

/-- Bytes that a server sends back as they are. -/
def echo : Schema where
  typeName := typeNamed "Echo"
  tag := "msgproc.Echo"
  format := .binary
  shape := .record "Echo" (.ofList [("data", .list .u8)])

/-- A text to be announced. -/
def notice : Schema where
  typeName := typeNamed "Notice"
  tag := "msgproc.Notice"
  format := .json
  shape := .record "Notice" (.ofList [("text", .text)])

/-! ## Messages -/

/-- The probe with a number, sent at a time in microseconds. -/
def pingOf (seq : UInt32) (sentAt : UInt64) : Message :=
  ⟨ping, (seq.toBitVec, sentAt.toBitVec, ())⟩

/-- The echo of some bytes. -/
def echoOf (data : Bytes) : Message :=
  ⟨echo, (data.map UInt8.toBitVec, ())⟩

/-- The bytes of an echo. -/
def echoData (v : echo.Value) : Bytes :=
  v.1.map UInt8.ofBitVec

/-- The notice of a text. -/
def noticeOf (text : String) : Message :=
  ⟨notice, (text, ())⟩

/-! ## Identifiers -/

/-- The identifiers of the built-in messages. -/
def pingId : UInt16 := 1
def pongId : UInt16 := 2
def echoId : UInt16 := 3
def noticeId : UInt16 := 4

/-- The built-in messages in the order of their registration. -/
def bindings : List (UInt16 × Schema) :=
  [(pingId, ping), (pongId, pong), (echoId, echo), (noticeId, notice)]

end Switchboard.Builtin
