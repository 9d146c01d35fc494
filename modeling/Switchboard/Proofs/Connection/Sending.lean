import Mathlib.Data.List.Forall2
import Switchboard.Proofs.Connection.Expected
import Switchboard.Proofs.Framing.Transfer

/-!
# Sending

A connection puts every frame into the same buffer and writes to its stream from there. What an
earlier frame left in the buffer is cleared away first, so a frame that is refused gets nothing onto
the stream and neither does it later. The stream holds the frames that were sent and nothing between
them, and what is counted is what it holds.
-/

namespace Switchboard

/-! ## Calls in turn -/

section Calls

variable {σ ι ρ τ ε β : Type}

/-- The items for which a call succeeded. -/
def succeeded : List ι → List (Except ε ρ) → List ι
  | i :: items, .ok _ :: results => i :: succeeded items results
  | _ :: items, .error _ :: results => succeeded items results
  | _, _ => []

end Calls

/-! ## One frame -/

namespace Connection

variable {c : Connection} {frame : Frame}

/-- A frame is prepared if it is within the limit. -/
theorem prepare_eq (c : Connection) (frame : Frame) :
    c.prepare frame =
      if c.splitter.framing.limit < frame.length then
        (.error (.frameTooLarge frame.length c.splitter.framing.limit), { c with writeBuffer := [] })
      else
        (.ok (c.splitter.framing.frameBytes frame.toBytes),
          { c with writeBuffer := c.splitter.framing.frameBytes frame.toBytes }) := by
  rw [prepare, Framing.encode, Framing.frameBytes, Frame.length_toBytes]
  by_cases h : c.splitter.framing.limit < frame.length
  · rw [if_pos h, if_pos h]
  · rw [if_neg h, if_neg h]
    rfl

/-- The bytes that sends wrote to the stream. -/
def written (results : List (Except ConnectionError Bytes)) : Bytes :=
  results.flatMap fun result => result.toOption.getD []

/-- How often sending succeeded. -/
def successes (results : List (Except ConnectionError Bytes)) : Nat :=
  results.countP Except.isOk

/-- A connection behind some sends, with what they left in its buffer. Nothing that receiving depends
on has changed. -/
def posted (c : Connection) (buffer : Bytes) (results : List (Except ConnectionError Bytes)) :
    Connection :=
  { c with
    writeBuffer := buffer
    stats := { c.stats with
      framesSent := c.stats.framesSent + successes results
      bytesSent := c.stats.bytesSent + (written results).length } }

end Connection

end Switchboard
