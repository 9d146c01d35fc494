import Switchboard.Network.Framing

/-!
# What a stream holds

The frames of a byte stream, read off in one go. A stream that is cut into pieces has to give the
same frames whatever the cuts are.
-/

namespace Switchboard

/-- Where the frames of a stream stop. -/
inductive StreamTail
  /-- Behind these bytes more may come: less than a length, or a length and less than its frame. -/
  | more (rest : Bytes)
  /-- At a length above the limit. -/
  | tooLarge (length : Nat) (rest : Bytes)
  deriving DecidableEq, Repr

/-- A stream as its complete frames and what is behind them. -/
structure StreamFrames where
  frames : List Bytes
  tail : StreamTail
  deriving DecidableEq, Repr

namespace Framing

/-- The length at the front of a stream. -/
def lengthAt? (f : Framing) : Bytes → Option (Nat × Bytes)
  | a :: b :: c :: d :: rest => some ((f.byteOrder.decode32 a b c d).toNat, rest)
  | _ => none

theorem lengthAt?_shorter {f : Framing} {bs rest : Bytes} {n : Nat}
    (h : f.lengthAt? bs = some (n, rest)) : rest.length < bs.length := by
  unfold lengthAt? at h
  split at h
  · simp only [Option.some.injEq, Prod.mk.injEq] at h
    obtain ⟨-, rfl⟩ := h
    simp
    omega
  · cases h

/-- All frames of a stream. -/
def parse (f : Framing) (bs : Bytes) : StreamFrames :=
  match _h : f.lengthAt? bs with
  | none => ⟨[], .more bs⟩
  | some (n, rest) =>
    if f.limit < n then ⟨[], .tooLarge n bs⟩
    else if n ≤ rest.length then
      let more := f.parse (rest.drop n)
      ⟨rest.take n :: more.frames, more.tail⟩
    else ⟨[], .more bs⟩
termination_by bs.length
decreasing_by
  have := lengthAt?_shorter _h
  simp
  omega

/-- The bytes of a frame behind its length. -/
def frameBytes (f : Framing) (frame : Bytes) : Bytes :=
  f.byteOrder.encode32 (UInt32.ofNat frame.length) ++ frame

end Framing

end Switchboard
