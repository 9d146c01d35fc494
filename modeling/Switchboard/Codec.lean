import Switchboard.ByteOrder
import Switchboard.Registry
import Switchboard.Schema.Describe

/-!
# The codec

A frame is the identifier of a message's type, on two bytes, and the payload. Encoding looks the
type up by the message, decoding by the identifier. A payload whose identifier has a raw handler is
handed on as it is.
-/

namespace Switchboard

/-- A payload that was left undecoded. -/
structure RawMessage where
  id : MessageId
  payload : Bytes
  deriving DecidableEq, Repr

/-- What a frame holds. -/
inductive Decoded
  | message (m : Message)
  | raw (r : RawMessage)

namespace Decoded

/-- The tag of a decoded message. -/
def tag? : Decoded → Option String
  | .message m => some m.tag
  | .raw _ => none

/-- The undecoded payload. -/
def raw? : Decoded → Option RawMessage
  | .message _ => none
  | .raw r => some r

/-- The value of a decoded message of a given type. -/
def as? (d : Decoded) (s : Schema) : Option s.Value :=
  match d with
  | .message m => m.as? s
  | .raw _ => none

end Decoded

/-- The description of a message is that of its value. -/
def Message.describe (m : Message) : String :=
  m.schema.shape.describe m.value

/-- The description of what a frame holds. -/
def Decoded.describe : Decoded → String
  | .message m => "Message(" ++ m.describe ++ ")"
  | .raw r =>
    "Raw(" ++ Text.Layout.compact.record "RawMessage"
      [("id", Text.leaf (toString r.id)), ("payload", Text.leaf (Text.quotedBytes r.payload))]
      ++ ")"

/-- An identifier on two bytes, and a payload. -/
structure Frame where
  header : UInt8 × UInt8
  payload : Bytes
  deriving DecidableEq, Repr

namespace Frame

/-- The bytes of a frame. -/
def toBytes (f : Frame) : Bytes :=
  f.header.1 :: f.header.2 :: f.payload

/-- The number of bytes of a frame. -/
def length (f : Frame) : Nat :=
  2 + f.payload.length

theorem length_toBytes (f : Frame) : f.toBytes.length = f.length := by
  simp [toBytes, length]
  omega

end Frame

/-- Why a frame cannot be made or understood. -/
inductive CodecError
  | frameTooShort (length : Nat)
  | unknownId (id : MessageId)
  | notRegistered (tag : String)
  | payload (error : PayloadError)
  deriving DecidableEq, Repr

def CodecError.message : CodecError → String
  | .frameTooShort n => s!"Frame too short: {n} bytes"
  | .unknownId id => s!"Message ID {id} not registered"
  | .notRegistered tag => s!"Message {tag} not registered"
  | .payload e => "Payload error: " ++ e.message

/-- A registry with the byte order of the identifiers. -/
structure Codec (P : Type) where
  registry : Registry P
  byteOrder : ByteOrder

namespace Codec

variable {P : Type}

/-- The frame of a message. -/
def encode (c : Codec P) (m : Message) : Except CodecError Frame :=
  match c.registry.lookup? m with
  | none => .error (.notRegistered m.tag)
  | some e =>
    match e.encodePayload? m with
    | none => .error (.notRegistered m.tag)
    | some (.error err) => .error (.payload err)
    | some (.ok payload) => .ok ⟨c.byteOrder.encode16 e.id, payload⟩

/-- The frame of an undecoded payload. -/
def encodeRaw (c : Codec P) (r : RawMessage) : Except CodecError Frame :=
  match c.registry.byId? r.id with
  | none => .error (.unknownId r.id)
  | some _ => .ok ⟨c.byteOrder.encode16 r.id, r.payload⟩

/-- What a frame holds. -/
def decode (c : Codec P) : Bytes → Except CodecError Decoded
  | a :: b :: payload =>
    let id := c.byteOrder.decode16 (a, b)
    match c.registry.byId? id with
    | none => .error (.unknownId id)
    | some e =>
      if e.rawHandler.isSome then .ok (.raw ⟨id, payload⟩)
      else
        match e.decodePayload payload with
        | .ok m => .ok (.message m)
        | .error err => .error (.payload err)
  | short => .error (.frameTooShort short.length)

/-- The description of a codec. -/
def describe (c : Codec P) (l : Text.Layout) : String :=
  l.record "Codec"
    [("byte_order", Text.leaf c.byteOrder.describe),
      ("messages", Text.leaf (toString c.registry.size))]

end Codec

end Switchboard
