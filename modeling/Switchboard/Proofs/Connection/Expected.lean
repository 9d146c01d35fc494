import Mathlib.Data.List.Infix
import Switchboard.Proofs.Connection.Conservation

/-!
# Receiving what is expected

If what is ahead of a connection is the beginning of some frames within its limit, then receiving
gives the first of them as soon as it is complete, and waits until then. It never fails.
-/

namespace Switchboard

namespace Framing

variable {f : Framing} {frames : List Bytes}

/-- How frames are written depends on the byte order alone. -/
theorem framesBytes_congr {g : Framing} (h : f.byteOrder = g.byteOrder) :
    f.framesBytes = g.framesBytes := by
  have hframe : f.frameBytes = g.frameBytes := by
    funext frame
    rw [frameBytes, frameBytes, h]
  funext frames
  rw [framesBytes, framesBytes, hframe]

theorem framesBytes_take_prefix (f : Framing) (n : Nat) (frames : List Bytes) :
    f.framesBytes (frames.take n) <+: f.framesBytes frames := by
  refine ⟨f.framesBytes (frames.drop n), ?_⟩
  rw [← framesBytes_append, List.take_append_drop]

/-- If more frames than these have gone by, the next one is in what follows. -/
theorem frameBytes_prefix_of_take {k n : Nat} {frame rest : Bytes}
    (hframe : frames[k]? = some frame) (hlt : k < n)
    (h : f.framesBytes (frames.take n) <+: f.framesBytes (frames.take k) ++ rest) :
    f.frameBytes frame <+: rest := by
  have htake : f.framesBytes (frames.take (k + 1)) =
      f.framesBytes (frames.take k) ++ f.frameBytes frame := by
    rw [List.take_add_one, hframe, framesBytes_append, Option.toList_some, framesBytes_singleton]
  have hnext : f.framesBytes (frames.take (k + 1)) <+: f.framesBytes (frames.take n) := by
    have hprefix := f.framesBytes_take_prefix (k + 1) (frames.take n)
    rwa [List.take_take, Nat.min_eq_left hlt] at hprefix
  rw [htake] at hnext
  exact (List.prefix_append_right_inj _).mp (hnext.trans h)

theorem length_frameBytes (f : Framing) (frame : Bytes) :
    (f.frameBytes frame).length = 4 + frame.length := by
  rw [frameBytes, List.length_append, ByteOrder.length_encode32]

/-- The number of bytes of some frames on a stream. -/
def streamLength : List Bytes → Nat
  | [] => 0
  | frame :: rest => 4 + frame.length + streamLength rest

theorem length_framesBytes (f : Framing) (frames : List Bytes) :
    (f.framesBytes frames).length = streamLength frames := by
  induction frames with
  | nil => rfl
  | cons frame rest ih =>
    rw [framesBytes_cons, List.length_append, length_frameBytes, ih, streamLength]

theorem parse_framesBytes (hf : f.limit ≤ largestLength)
    (hfits : ∀ frame ∈ frames, frame.length ≤ f.limit) :
    f.parse (f.framesBytes frames) = ⟨frames, .more []⟩ := by
  have hparse := parse_framesBytes_append hf hfits []
  have hnone : f.parse [] = ⟨[], .more []⟩ := parse_of_short rfl
  rw [List.append_nil, hnone, List.append_nil] at hparse
  exact hparse

/-- The beginning of frames within the limit does not lead to a length above it. -/
theorem tail_of_prefix (hf : f.limit ≤ largestLength)
    (hfits : ∀ frame ∈ frames, frame.length ≤ f.limit) {bs : Bytes}
    (h : bs <+: f.framesBytes frames) : ∃ rest, (f.parse bs).tail = .more rest := by
  obtain ⟨more, hmore⟩ := h
  cases htail : (f.parse bs).tail with
  | more rest => exact ⟨rest, rfl⟩
  | tooLarge n rest =>
    have hends := endsWith_tail f bs
    have hlarge := parse_tail f bs
    rw [htail] at hends hlarge
    obtain ⟨before, hbefore, rfl⟩ := hends
    -- The length would still be there in the whole stream.
    have hwhole := parse_framesBytes hf hfits
    rw [← hmore, List.append_assoc, parse_framesBytes_append hf hbefore,
      parse_tooLarge_append hlarge] at hwhole
    cases hwhole

/-- A frame at the beginning of a stream of frames is the first of them. -/
theorem eq_cons_of_prefix (hf : f.limit ≤ largestLength)
    (hfits : ∀ frame ∈ frames, frame.length ≤ f.limit) {frame rest : Bytes}
    (hframe : frame.length ≤ f.limit)
    (h : f.frameBytes frame ++ rest <+: f.framesBytes frames) :
    ∃ more, frames = frame :: more ∧ rest <+: f.framesBytes more := by
  obtain ⟨behind, hbehind⟩ := h
  have hwhole := parse_framesBytes hf hfits
  rw [← hbehind, List.append_assoc, parse_frameBytes_append hf hframe] at hwhole
  obtain ⟨more, rfl⟩ : ∃ more, frames = frame :: more :=
    ⟨_, (congrArg StreamFrames.frames hwhole).symm⟩
  refine ⟨more, rfl, behind, ?_⟩
  rw [framesBytes_cons, List.append_assoc] at hbehind
  exact List.append_cancel_left hbehind

end Framing

namespace Connection

variable {c : Connection} {s : Inbound} {frames : List Bytes}

/-- How receiving goes when frames are expected. -/
inductive Expects (c : Connection) (s : Inbound) : List Bytes → Prop
  | frame {frame : Bytes} {rest : List Bytes} {c' : Connection} {s' : Inbound}
      (receives : c.receive s = (.frame frame, c', s'))
      (front : c.ahead s = c.splitter.framing.frameBytes frame ++ c'.ahead s')
      (behind : c'.ahead s' <+: c.splitter.framing.framesBytes rest) : Expects c s (frame :: rest)
  | wait {frames : List Bytes} {c' : Connection} {s' : Inbound}
      (receives : c.receive s = (.pending, c', s')) (same : c'.ahead s' = c.ahead s)
      (incomplete : ∀ frame rest, frames = frame :: rest →
        ¬ c.splitter.framing.frameBytes frame <+: c.ahead s) : Expects c s frames

theorem expects_of_prefix (hs : c.splitter.Sound) (hopen : s.closed = false)
    (hfits : ∀ frame ∈ frames, frame.length ≤ c.splitter.framing.limit)
    (h : c.ahead s <+: c.splitter.framing.framesBytes frames) : Expects c s frames := by
  have hkept := kept_receive c s
  have hcase := frame_or_verdict (s := s) hs
  rcases hr : c.receive s with ⟨result, c', s'⟩
  rw [hr] at hkept hcase
  have hahead : c.ahead s = c.splitter.framing.framesBytes result.frames ++ c'.ahead s' :=
    hkept.ahead
  rcases hcase with ⟨frame, hresult, hlength⟩ | ⟨tail, hparse, hresult⟩
  · cases hresult
    rw [Received.frames, Framing.framesBytes_singleton] at hahead
    obtain ⟨rest, rfl, hbehind⟩ := Framing.eq_cons_of_prefix hs.limit_le hfits hlength (hahead ▸ h)
    exact .frame hr hahead hbehind
  · obtain ⟨rest, hmore⟩ := Framing.tail_of_prefix hs.limit_le hfits h
    rw [hparse] at hmore
    cases hmore
    rw [hopen] at hresult
    cases hresult
    refine .wait hr hahead.symm ?_
    rintro frame rest rfl ⟨behind, hbehind⟩
    rw [← hbehind, Framing.parse_frameBytes_append hs.limit_le (hfits frame List.mem_cons_self)]
      at hparse
    cases hparse

end Connection

end Switchboard
