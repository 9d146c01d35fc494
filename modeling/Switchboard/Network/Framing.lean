import Switchboard.Network.ConnectionError

/-!
# Framing

A stream of bytes as a sequence of frames: each one follows its length, which is written on four
bytes in the byte order of the connection. The splitter takes frames off the front of a growing
buffer. It takes the length as soon as that is complete and remembers it until the frame is; a
length above the limit is left in the buffer and refused again and again.
-/

namespace Switchboard

/-- The byte order of the lengths and the longest frame. -/
structure Framing where
  byteOrder : ByteOrder
  limit : Nat
  deriving DecidableEq, Repr

namespace Framing

/-- The largest length that four bytes can hold. -/
def largestLength : Nat :=
  UInt32.size - 1

/-- Framing with frames up to `max` bytes, as far as a length can describe them. -/
def new (order : ByteOrder) (max : Nat) : Framing :=
  ⟨order, min max largestLength⟩

/-- Appends a frame with its length to a buffer. -/
def encode (f : Framing) (frame : Frame) (buffer : Bytes) : Except ConnectionError Bytes :=
  if f.limit < frame.length then .error (.frameTooLarge frame.length f.limit)
  else .ok (buffer ++ f.byteOrder.encode32 (UInt32.ofNat frame.length) ++ frame.toBytes)

end Framing

/-- Takes frames off a buffer. -/
structure Splitter where
  framing : Framing
  /-- The length that was taken, while its frame is not complete. -/
  announced : Option Nat
  deriving DecidableEq, Repr

namespace Splitter

/-- Nothing taken yet. -/
def new (f : Framing) : Splitter :=
  ⟨f, none⟩

/-- Takes a frame of `n` bytes if the buffer has them, and remembers `n` otherwise. -/
def takeFrame (s : Splitter) (n : Nat) (buffer : Bytes) : Option Bytes × Splitter × Bytes :=
  match Bytes.split? n buffer with
  | some (frame, rest) => (some frame, { s with announced := none }, rest)
  | none => (none, { s with announced := some n }, buffer)

/-- Takes one frame off the front of a buffer, if it is complete. -/
def decode (s : Splitter) (buffer : Bytes) :
    Except ConnectionError (Option Bytes) × Splitter × Bytes :=
  match s.announced with
  | some n =>
    let (frame, s, rest) := s.takeFrame n buffer
    (.ok frame, s, rest)
  | none =>
    match buffer with
    | a :: b :: c :: d :: rest =>
      let n := (s.framing.byteOrder.decode32 a b c d).toNat
      if s.framing.limit < n then (.error (.frameTooLarge n s.framing.limit), s, buffer)
      else
        let (frame, s, rest) := s.takeFrame n rest
        (.ok frame, s, rest)
    | _ => (.ok none, s, buffer)

end Splitter

end Switchboard
