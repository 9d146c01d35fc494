import Switchboard.Proofs.Connection.Receive

/-!
# What receiving keeps

Receiving once takes one frame off what is ahead of a connection, or nothing at all: all other bytes
stay ahead, whether they are read on the way or not. So it can be given up while it waits and begun
anew. It comes to something other than a frame only if no complete frame is ahead.
-/

namespace Switchboard

namespace Connection

/-- The frame that receiving gives, if it gives one. -/
def Received.frames : Received → List Bytes
  | .frame bs => [bs]
  | _ => []

theorem frames_atEnd (c : Connection) : c.atEnd.frames = [] := by
  unfold atEnd
  split <;> rfl

theorem framesReceived_poll_frame {c c' : Connection} {frame : Bytes}
    (h : c.poll = (.ok (some frame), c')) :
    c'.stats.framesReceived = c.stats.framesReceived + 1 := by
  rw [poll_eq] at h
  obtain ⟨hframe, rfl⟩ := Prod.mk.inj h
  rw [hframe]
  rfl

theorem stats_poll_none {c c' : Connection} (h : c.poll = (.ok none, c')) : c'.stats = c.stats := by
  rw [poll_eq] at h
  obtain ⟨hnone, rfl⟩ := Prod.mk.inj h
  rw [hnone]
  rfl

theorem poll_error {c c' : Connection} {e : ConnectionError} (h : c.poll = (.error e, c')) :
    c' = c := by
  have hlook := Splitter.look_decode c.splitter c.readBuffer
  rw [poll_eq] at h
  generalize c.splitter.decode c.readBuffer = d at h hlook
  cases hlook with
  | frame frame rest fits front => cases h
  | wait s' rest sound framing same waits => cases h
  | refuse n large =>
    cases h
    rfl

/-- Looking in vain changes neither what is ahead nor what is counted. -/
theorem kept_poll_none {c c' : Connection} (h : c.poll = (.ok none, c')) :
    (c.splitter.Sound → c'.splitter.Sound) ∧ c'.splitter.framing = c.splitter.framing ∧
      c'.splitter.pending c'.readBuffer = c.splitter.pending c.readBuffer ∧ c'.stats = c.stats := by
  have hlook := look_poll c
  rw [h] at hlook
  obtain ⟨hsound, hframing, hsame, -⟩ := hlook.of_none
  exact ⟨hsound, hframing, hsame, stats_poll_none h⟩

/-- What receiving leaves of a connection and its stream. -/
structure Kept (c : Connection) (s : Inbound) (r : Received × Connection × Inbound) : Prop where
  sound : c.splitter.Sound → r.2.1.splitter.Sound
  framing : r.2.1.splitter.framing = c.splitter.framing
  closed : r.2.2.closed = s.closed
  /-- Nothing is lost: what was ahead was given or still is. -/
  ahead : c.ahead s = c.splitter.framing.framesBytes r.1.frames ++ r.2.1.ahead r.2.2
  counted : r.2.1.stats.framesReceived = c.stats.framesReceived + r.1.frames.length

theorem kept_receive (c : Connection) (s : Inbound) : Kept c s (c.receive s) := by
  fun_induction c.receive s with
  | case1 c s frame c' hpoll =>
    have h := look_poll c
    rw [hpoll] at h
    obtain ⟨hsplitter, -, hfront⟩ := h.of_frame
    refine ⟨?_, ?_, rfl, ?_, framesReceived_poll_frame hpoll⟩
    · intro hs
      rw [hsplitter]
      exact Splitter.sound_new hs.limit_le
    · rw [hsplitter]
      rfl
    · rw [Connection.ahead, Connection.ahead, hfront, hsplitter, Splitter.pending_new,
        Received.frames, Framing.framesBytes_singleton, List.append_assoc]
  | case2 c s e c' hpoll =>
    cases poll_error hpoll
    exact ⟨id, rfl, rfl, rfl, rfl⟩
  | case3 c s c' hpoll bs rest hread ih =>
    obtain ⟨hsound, hframing, hsame, hstats⟩ := kept_poll_none hpoll
    obtain ⟨-, hall⟩ := Inbound.flatten_of_readPieces hread
    -- What was read moved from the stream into the buffer.
    have hahead : (c'.absorb bs).ahead { s with pieces := rest } = c.ahead s := by
      show c'.splitter.pending (c'.readBuffer ++ bs) ++ rest.flatten
        = c.splitter.pending c.readBuffer ++ s.pieces.flatten
      rw [Splitter.pending_append, hsame, hall, List.append_assoc]
    have hframing' : (c'.absorb bs).splitter.framing = c.splitter.framing := hframing
    refine ⟨fun hs => ih.sound (hsound hs), ih.framing.trans hframing', ih.closed, ?_, ?_⟩
    · rw [← hahead, ih.ahead, hframing']
    · rw [ih.counted, ← hstats]
      rfl
  | case4 c s c' hpoll hread hclosed =>
    obtain ⟨hsound, hframing, hsame, hstats⟩ := kept_poll_none hpoll
    refine ⟨hsound, hframing, rfl, ?_, ?_⟩
    · rw [frames_atEnd, Connection.ahead, Connection.ahead, hsame]
      rfl
    · rw [frames_atEnd, ← hstats]
      rfl
  | case5 c s c' hpoll hread hopen =>
    obtain ⟨hsound, hframing, hsame, hstats⟩ := kept_poll_none hpoll
    refine ⟨hsound, hframing, rfl, ?_, ?_⟩
    · rw [Connection.ahead, Connection.ahead, hsame]
      rfl
    · rw [← hstats]
      rfl

/-- Receiving gives a frame within the limit, or else no complete frame is ahead and the tail of the
stream is judged. -/
theorem frame_or_verdict {c : Connection} {s : Inbound} (hs : c.splitter.Sound) :
    (∃ frame, (c.receive s).1 = .frame frame ∧ frame.length ≤ c.splitter.framing.limit) ∨
    (∃ tail, c.splitter.framing.parse (c.ahead s) = ⟨[], tail⟩ ∧
      (c.receive s).1 = verdict c.splitter.framing.limit s.closed tail) := by
  have h := reception_receive c s
  generalize c.receive s = r at h
  cases h with
  | frame frame c' s' splitter closed fits front => exact .inl ⟨frame, rfl, fits hs⟩
  | refused n c' s' large => exact .inr ⟨_, large, rfl⟩
  | drained c' s' sound framing same waits last judged =>
    have hparse := waits.parse_pending (sound hs)
    rw [framing, same] at hparse
    exact .inr ⟨_, hparse, judged⟩

end Connection

end Switchboard
