import Mathlib.Data.List.Infix
import Switchboard.Proofs.Server.Ending

/-!
# A served connection is a function of its stream

If no routed job replies, what a server writes depends only on the frames of the stream, each by
itself: not on the pieces in which the stream arrives, and not on the order in which the server
receives and writes.
-/

namespace Switchboard

variable {C : Type}

namespace Served

variable {config : NetworkConfig} {router : Bool} {context : C} {moves : List Move} {s : Served C}

/-- A reply that waits can be encoded, and is short enough to be written. -/
theorem Converses.sendable (h : Converses config router context moves s)
    (hquiet : ∀ m ∈ moves, m.isReply = false) {o : Outbound} (ho : o ∈ s.mailbox.queue) :
    ∃ reply, s.processor.encodeOutbound o = .ok reply ∧
      reply.length ≤ s.connection.splitter.framing.limit := by
  obtain ⟨frames, hframes⟩ := h.dispatched
  have haccepted := h.delivers.waiting.mem ho
  rw [hframes.replied hquiet] at haccepted
  obtain ⟨frame, hframe, hmem⟩ := List.mem_flatMap.mp haccepted
  rw [h.setup.processor] at hmem ⊢
  obtain ⟨reply, hreply, hle⟩ := reply_fits hmem
  exact ⟨reply, hreply, Nat.le_trans hle (hframes.fits frame hframe)⟩

/-- The replies that wait are short enough to be written. -/
theorem Converses.fits (h : Converses config router context moves s)
    (hquiet : ∀ m ∈ moves, m.isReply = false) :
    ∀ o ∈ s.mailbox.queue, ∀ reply, s.processor.encodeOutbound o = .ok reply →
      reply.length ≤ s.connection.splitter.framing.limit := by
  intro o ho reply hreply
  obtain ⟨reply', hreply', hle⟩ := h.sendable hquiet ho
  cases hreply.symm.trans hreply'
  exact hle

/-- What holds of a connection at every moment, and the cause of its end. -/
structure Ends (config : NetworkConfig) (router : Bool) (context : C) (moves : List Move)
    (s : Served C) : Prop extends Converses config router context moves s where
  cause : (∀ m ∈ moves, m.isReply = false) →
    ∀ reason, s.ended = some reason → EndCause moves s reason

theorem Ends.step {m : Move} {s' : Served C} (h : Ends config router context moves s)
    (hstep : Step s m s') : Ends config router context (moves ++ [m]) s' := by
  refine ⟨h.toConverses.step hstep, ?_⟩
  intro hquiet reason hended
  have hbefore : ∀ k ∈ moves, k.isReply = false := fun k hk =>
    hquiet k (List.mem_append_left _ hk)
  obtain ⟨frames, hframes⟩ := h.dispatched
  exact hstep.endCause h.delivers hframes.sound (h.fits hbefore) (h.cause hbefore) hended

theorem ends_of_run (hrun : (Served.new config router context).run? moves = some s) :
    Ends config router context moves s :=
  run_induction (motive := Ends config router context) (fun h hmove => h.step (step_of_move hmove))
    ⟨converses_new config router context, fun _ _ h => nomatch h⟩ hrun

/-- How a connection answers a stream that begins with what has arrived. -/
structure Refines (p : Processor Responder) (f : Framing) (context : C) (moves : List Move)
    (stream : Bytes) (s : Served C) : Prop where
  /-- What was written is part of the answers to the frames, one after the other. -/
  written : s.written <+: (f.parse stream).frames.flatMap (p.answer f context)
  /-- With the replies that wait it is all of the answers to the frames dispatched so far. -/
  answered : s.ended = none → s.written ++ s.bytesOf s.mailbox.queue =
    ((f.parse stream).frames.take s.connection.stats.framesReceived).flatMap (p.answer f context)
  submitted : s.submissions =
    ((f.parse stream).frames.take s.connection.stats.framesReceived).flatMap
      (p.submissions context)
  dispatched : s.connection.stats.framesReceived ≤ (f.parse stream).frames.length
  /-- A frame that cannot be used answers nothing and submits nothing, -/
  silent : ∀ frame, ¬ p.Usable context frame →
    p.answer f context frame = [] ∧ p.submissions context frame = []
  /-- and when it is received, nothing is changed but what is ahead. -/
  skipped : ∀ frame c i, s.ended = none →
    s.connection.receive s.inbound = (.frame frame, c, i) → ¬ p.Usable context frame →
      s.receive = s.received c i
  /-- The connection is not over but for the stream or for the server itself. -/
  ended : ∀ reason, s.ended = some reason → EndCause moves s reason

theorem receive_of_not_usable {frame : Bytes} {c : Connection} {i : Inbound}
    (hreceive : s.connection.receive s.inbound = (.frame frame, c, i))
    (h : ¬ s.processor.Usable s.context frame) : s.receive = s.received c i := by
  have hskip : (s.received c i).dispatch frame = s.received c i := dispatch_of_not_usable h
  rw [receive, hreceive]
  exact hskip

/-- The frames that were dispatched are the first of the stream. -/
theorem Dispatched.eq_take {frames : List Bytes} (h : Dispatched moves frames s) {stream : Bytes}
    (hstream : arrived moves <+: stream) :
    frames = (s.connection.splitter.framing.parse stream).frames.take
      s.connection.stats.framesReceived ∧
    s.connection.stats.framesReceived ≤
      (s.connection.splitter.framing.parse stream).frames.length := by
  have hprefix : frames <+: (s.connection.splitter.framing.parse stream).frames := by
    refine List.IsPrefix.trans ?_ (Framing.parse_frames_prefix h.sound.limit_le hstream)
    rw [h.stream, Framing.parse_framesBytes_append h.sound.limit_le h.fits]
    exact List.prefix_append _ _
  rw [h.counted]
  exact ⟨List.prefix_iff_eq_take.mp hprefix, hprefix.length_le⟩

/-- A served connection whose routed jobs do not reply answers each frame of its stream as if it
were alone, however the stream arrives and whatever the server does first. -/
theorem refines_of_run (config : NetworkConfig) (router : Bool) (context : C) {moves : List Move}
    {s : Served C} (hrun : (Served.new config router context).run? moves = some s)
    (hquiet : ∀ m ∈ moves, m.isReply = false) {stream : Bytes}
    (hstream : arrived moves <+: stream) :
    Refines (serverProcessor config.byteOrder router)
      (Framing.new config.byteOrder config.maxFrameSize.toNat) context moves stream s := by
  have h := ends_of_run hrun
  obtain ⟨frames, hframes⟩ := h.dispatched
  obtain ⟨htake, hcount⟩ := hframes.eq_take hstream
  have hprocessor : s.processor = serverProcessor config.byteOrder router := h.setup.processor
  have hcontext : s.context = context := h.setup.context
  have hframing : s.connection.splitter.framing =
      Framing.new config.byteOrder config.maxFrameSize.toNat := h.setup.framing
  -- Everything is told by the frames dispatched so far, which are the first of the stream.
  have haccepted : s.bytesOf s.accepted = frames.flatMap ((serverProcessor config.byteOrder
      router).answer (Framing.new config.byteOrder config.maxFrameSize.toNat) context) := by
    rw [hframes.replied hquiet, bytesOf, List.flatMap_assoc, hprocessor, hcontext, hframing]
    rfl
  rw [hframing] at htake hcount
  refine ⟨?_, ?_, ?_, hcount, ?_, ?_, h.cause hquiet⟩
  · have hpart := h.delivers.part
    rw [haccepted, htake] at hpart
    exact hpart.trans (List.IsPrefix.flatMap (List.take_prefix _ _) _)
  · intro hlive
    rw [← h.delivers.all hlive, haccepted, ← htake]
  · rw [hframes.submitted, hprocessor, hcontext, ← htake]
  · intro frame hframe
    exact ⟨Processor.answer_of_not_usable hframe _, (Processor.silent_of_not_usable hframe).2⟩
  · intro frame c i _ hreceive hframe
    rw [← hprocessor, ← hcontext] at hframe
    exact receive_of_not_usable hreceive hframe

/-- A ping that arrives in two pieces, a frame with an unknown identifier, and an echo; the pong is
written in between. -/
def mixedRun : List Move :=
  [.arrive [0, 0, 0, 14, 0, 1, 0, 0, 0, 7, 0, 0], .receive,
    .arrive [0, 0, 0, 0, 0, 0, 0, 0, 0, 3, 9, 9, 9, 0, 0, 0, 4, 0, 3, 5, 6], .receive, .receive,
    .write .complete, .receive]

theorem refines_of_mixedRun :
    ∃ s, (Served.new {} true ()).run? mixedRun = some s ∧
      s.written = [0, 0, 0, 14, 0, 2, 0, 0, 0, 7, 0, 0, 0, 0, 0, 0, 0, 0] ∧
      s.connection.stats.framesReceived = 3 ∧
      Refines (serverProcessor .big true) (Framing.new .big 65536) () mixedRun
        (arrived mixedRun ++ [0, 0]) s := by
  have hrun : ((Served.new {} true ()).run? mixedRun).map (fun s =>
      (s.written, s.connection.stats.framesReceived)) =
        some ([0, 0, 0, 14, 0, 2, 0, 0, 0, 7, 0, 0, 0, 0, 0, 0, 0, 0], 3) := by decide +kernel
  obtain ⟨s, hs, hseen⟩ := Option.map_eq_some_iff.mp hrun
  obtain ⟨hwritten, hcount⟩ := Prod.mk.inj hseen
  exact ⟨s, hs, hwritten, hcount,
    refines_of_run {} true () hs (by decide) (List.prefix_append _ _)⟩

end Served

end Switchboard
