import Switchboard.Network.Config
import Switchboard.Network.Framing

/-!
# Connections

A connection sends and receives frames over a stream of bytes. Receiving takes frames off the bytes
that have been read and reads more only when they hold no complete frame. It can be given up
whenever it waits for the stream, and taken up again later: all that it has read stays with the
connection.
-/

namespace Switchboard

/-! ## Streams -/

/-- The number of bytes that are read at once at most. -/
def readLimit : Nat :=
  4096

/-- What arrives on a stream: pieces that are there to be read, and whether the peer has closed its
side behind them. -/
structure Inbound where
  pieces : List Bytes
  closed : Bool
  deriving DecidableEq, Repr

namespace Inbound

/-- Nothing has arrived. -/
def empty : Inbound :=
  ⟨[], false⟩

/-- A further piece arrives. -/
def arrive (s : Inbound) (piece : Bytes) : Inbound :=
  { s with pieces := s.pieces ++ [piece] }

/-- The peer closes its side. -/
def close (s : Inbound) : Inbound :=
  { s with closed := true }

/-- All bytes that are there to be read. -/
def bytes (s : Inbound) : Bytes :=
  s.pieces.flatten

/-- Reads from pieces: some bytes, and the pieces that are left. -/
def readPieces : List Bytes → Option (Bytes × List Bytes)
  | [] => none
  | [] :: rest => readPieces rest
  | piece :: rest =>
    if readLimit < piece.length then some (piece.take readLimit, piece.drop readLimit :: rest)
    else some (piece, rest)

theorem flatten_of_readPieces {ps rest : List Bytes} {bs : Bytes}
    (h : readPieces ps = some (bs, rest)) :
    bs ≠ [] ∧ ps.flatten = bs ++ rest.flatten := by
  fun_induction readPieces ps with
  | case1 => cases h
  | case2 rest ih => simpa using ih h
  | case3 piece rest _ hlong =>
    cases h
    constructor
    · intro he
      have := congrArg List.length he
      simp only [List.length_take, List.length_nil, readLimit] at this hlong
      omega
    · simp [← List.append_assoc]
  | case4 piece rest hne _ =>
    cases h
    exact ⟨fun he => hne he, by simp⟩

end Inbound

/-! ## Statistics -/

/-- What a connection has sent and received. Bytes count the lengths in front of the frames. -/
structure ConnectionStats where
  framesSent : Nat := 0
  framesReceived : Nat := 0
  bytesSent : Nat := 0
  bytesReceived : Nat := 0
  deriving DecidableEq, Repr

/-- A connection. -/
structure Connection where
  splitter : Splitter
  /-- The bytes that have been read and not been taken for frames. -/
  readBuffer : Bytes
  /-- The frame that was last prepared for sending. -/
  writeBuffer : Bytes
  stats : ConnectionStats
  deriving DecidableEq, Repr

namespace Connection

/-- A connection over a new stream. -/
def new (order : ByteOrder) (maxFrameSize : Nat) : Connection :=
  ⟨Splitter.new (Framing.new order maxFrameSize), [], [], {}⟩

/-- A connection with given settings. -/
def ofConfig (c : NetworkConfig) : Connection :=
  new c.byteOrder c.maxFrameSize.toNat

/-! ## Sending -/

/-- Prepares a frame: the bytes to be written. -/
def prepare (c : Connection) (frame : Frame) : Except ConnectionError Bytes × Connection :=
  match c.splitter.framing.encode frame [] with
  | .error e => (.error e, { c with writeBuffer := [] })
  | .ok bs => (.ok bs, { c with writeBuffer := bs })

/-- Counts the prepared frame once it has been written. -/
def countSent (c : Connection) : Connection :=
  { c with
    stats := { c.stats with
      framesSent := c.stats.framesSent + 1
      bytesSent := c.stats.bytesSent + c.writeBuffer.length } }

/-- Sends a frame over a stream that takes all bytes. -/
def send (c : Connection) (frame : Frame) : Except ConnectionError Bytes × Connection :=
  match c.prepare frame with
  | (.error e, c) => (.error e, c)
  | (.ok bs, c) => (.ok bs, c.countSent)

/-! ## Receiving -/

/-- How receiving goes. -/
inductive Received
  | frame (bs : Bytes)
  /-- The peer has closed its side. -/
  | ended
  | failed (e : ConnectionError)
  /-- Nothing more has arrived yet. -/
  | pending
  deriving DecidableEq, Repr

/-- Takes a frame off what has been read. -/
def poll (c : Connection) : Except ConnectionError (Option Bytes) × Connection :=
  let (result, splitter, rest) := c.splitter.decode c.readBuffer
  let c := { c with splitter := splitter, readBuffer := rest }
  match result with
  | .ok (some frame) =>
    (.ok (some frame),
      { c with stats := { c.stats with framesReceived := c.stats.framesReceived + 1 } })
  | result => (result, c)

/-- Adds bytes that have been read. -/
def absorb (c : Connection) (bs : Bytes) : Connection :=
  { c with
    readBuffer := c.readBuffer ++ bs
    stats := { c.stats with bytesReceived := c.stats.bytesReceived + bs.length } }

/-- What the end of the stream means: it is clean if nothing is left over. -/
def atEnd (c : Connection) : Received :=
  if c.readBuffer.isEmpty then .ended else .failed .closed

/-- Receives one frame, reading as much as that takes. -/
def receive (c : Connection) (s : Inbound) : Received × Connection × Inbound :=
  match c.poll with
  | (.ok (some frame), c) => (.frame frame, c, s)
  | (.error e, c) => (.failed e, c, s)
  | (.ok none, c) =>
    match _h : Inbound.readPieces s.pieces with
    | some (bs, rest) => (c.absorb bs).receive { s with pieces := rest }
    | none => if s.closed then (c.atEnd, c, s) else (.pending, c, s)
termination_by s.bytes.length
decreasing_by
  obtain ⟨hne, hall⟩ := Inbound.flatten_of_readPieces _h
  have := List.length_pos_iff.2 hne
  simp [Inbound.bytes, hall]
  omega

end Connection

end Switchboard
