import Switchboard.Proofs.Connection.Expected
import Switchboard.Proofs.Server.Refinement

/-!
# Connections that nothing disturbs

A peer that sends whole frames within the limit, and keeps its side open, does not end a served
connection. Each time the server receives, it takes the next frame or waits for the rest of it, and
each time it writes, it writes a reply.
-/

namespace Switchboard

variable {C : Type}

namespace Served

/-- The moves of a connection that nothing disturbs: pieces arrive, and the server receives and
writes. -/
inductive Move.Smooth : Move → Prop
  | arrive (piece : Bytes) : Smooth (.arrive piece)
  | receive : Smooth .receive
  | write : Smooth (.write .complete)

/-- How often a connection has received a frame. -/
def taken (s : Served C) : Nat :=
  s.connection.stats.framesReceived

/-- A connection on which frames are on their way and that nothing has disturbed. -/
structure Smooth (config : NetworkConfig) (router : Bool) (context : C) (frames : List Bytes)
    (moves : List Move) (s : Served C) : Prop where
  run : (Served.new config router context).run? moves = some s
  smooth : ∀ m ∈ moves, m.Smooth
  stream : arrived moves <+: s.connection.splitter.framing.framesBytes frames
  fits : ∀ frame ∈ frames, frame.length ≤ s.connection.splitter.framing.limit
  live : s.ended = none
  opened : s.inbound.closed = false

namespace Smooth

variable {config : NetworkConfig} {router : Bool} {context : C} {frames : List Bytes}
  {moves : List Move} {s s' : Served C} {m : Move}

theorem quiet (h : Smooth config router context frames moves s) :
    ∀ m ∈ moves, m.isReply = false := by
  intro m hm
  cases h.smooth m hm <;> rfl

theorem converses (h : Smooth config router context frames moves s) :
    Converses config router context moves s :=
  converses_of_run h.run

theorem framing_eq (h : Smooth config router context frames moves s) :
    s.connection.splitter.framing = Framing.new config.byteOrder config.maxFrameSize.toNat :=
  h.converses.setup.framing

theorem refines (h : Smooth config router context frames moves s) :
    Refines (serverProcessor config.byteOrder router) s.connection.splitter.framing context moves
      (s.connection.splitter.framing.framesBytes frames) s := by
  have hrefines := refines_of_run config router context h.run h.quiet h.stream
  rw [← h.framing_eq] at hrefines
  exact hrefines

theorem parse_stream (h : Smooth config router context frames moves s) :
    (s.connection.splitter.framing.parse
      (s.connection.splitter.framing.framesBytes frames)).frames = frames := by
  obtain ⟨before, hbefore⟩ := h.converses.dispatched
  rw [Framing.parse_framesBytes hbefore.sound.limit_le h.fits]

theorem taken_le (h : Smooth config router context frames moves s) : s.taken ≤ frames.length := by
  have hle := h.refines.dispatched
  rw [h.parse_stream] at hle
  exact hle

/-- What was written, with the replies that wait, answers the frames received so far. -/
theorem answered (h : Smooth config router context frames moves s) :
    s.written ++ s.bytesOf s.mailbox.queue = (frames.take s.taken).flatMap
      ((serverProcessor config.byteOrder router).answer s.connection.splitter.framing context) := by
  have hanswered := h.refines.answered h.live
  rw [h.parse_stream] at hanswered
  exact hanswered

theorem submitted (h : Smooth config router context frames moves s) :
    s.submissions = (frames.take s.taken).flatMap
      ((serverProcessor config.byteOrder router).submissions context) := by
  have hsubmitted := h.refines.submitted
  rw [h.parse_stream] at hsubmitted
  exact hsubmitted

/-- What has arrived and is not received yet is ahead. -/
theorem arrived_eq (h : Smooth config router context frames moves s) :
    arrived moves = s.connection.splitter.framing.framesBytes (frames.take s.taken) ++
      s.connection.ahead s.inbound := by
  obtain ⟨before, hbefore⟩ := h.converses.dispatched
  obtain ⟨htake, -⟩ := hbefore.eq_take h.stream
  rw [h.parse_stream] at htake
  rw [hbefore.stream, htake, taken]

/-- The next frames are expected. -/
theorem expects (h : Smooth config router context frames moves s) :
    s.connection.Expects s.inbound (frames.drop s.taken) := by
  obtain ⟨before, hbefore⟩ := h.converses.dispatched
  apply Connection.expects_of_prefix hbefore.sound h.opened
  · intro frame hframe
    exact h.fits frame (List.mem_of_mem_drop hframe)
  · have hstream := h.stream
    rw [h.arrived_eq] at hstream
    nth_rewrite 2 [← List.take_append_drop s.taken frames] at hstream
    rw [Framing.framesBytes_append] at hstream
    exact (List.prefix_append_right_inj _).mp hstream

/-! ## Moves -/

theorem start (config : NetworkConfig) (router : Bool) (context : C)
    (hfits : ∀ frame ∈ frames,
      frame.length ≤ (Framing.new config.byteOrder config.maxFrameSize.toNat).limit) :
    Smooth config router context frames [] (Served.new config router context) where
  run := rfl
  smooth := nofun
  stream := List.nil_prefix
  fits := hfits
  live := rfl
  opened := rfl

theorem arrive (h : Smooth config router context frames moves s) {piece : Bytes}
    (hstream : arrived moves ++ piece <+: s.connection.splitter.framing.framesBytes frames) :
    Smooth config router context frames (moves ++ [.arrive piece])
      { s with inbound := s.inbound.arrive piece } := by
  refine ⟨run?_append h.run ?_, ?_, ?_, h.fits, h.live, h.opened⟩
  · simp [move?, h.opened]
  · intro m hm
    rcases List.mem_append.mp hm with hold | hlast
    · exact h.smooth m hold
    · cases List.mem_singleton.mp hlast
      exact .arrive piece
  · rw [arrived_append]
    exact hstream

/-- What a move keeps if it is one of the receiving or writing ones. -/
theorem keep (h : Smooth config router context frames moves s) (hm : m.Smooth)
    (hmove : s.move? m = some s') (harriving : m.arriving = []) (hlive : s'.ended = none)
    (hopened : s'.inbound.closed = false) :
    Smooth config router context frames (moves ++ [m]) s' := by
  have hrun := run?_append h.run hmove
  have hframing : s'.connection.splitter.framing = s.connection.splitter.framing := by
    rw [h.framing_eq]
    exact (converses_of_run hrun).setup.framing
  refine ⟨hrun, ?_, ?_, ?_, hlive, hopened⟩
  · intro k hk
    rcases List.mem_append.mp hk with hold | hlast
    · exact h.smooth k hold
    · cases List.mem_singleton.mp hlast
      exact hm
  · rw [arrived_append, harriving, List.append_nil, hframing]
    exact h.stream
  · rw [hframing]
    exact h.fits

/-- Receiving takes the next frame, or waits because it is not complete. -/
theorem receive (h : Smooth config router context frames moves s) :
    Smooth config router context frames (moves ++ [.receive]) s.receive ∧
      s.receive.written = s.written ∧
      (s.receive.taken = s.taken + 1 ∨ s.receive.taken = s.taken ∧
        ∀ frame, frames[s.taken]? = some frame →
          ¬ s.connection.splitter.framing.frameBytes frame <+: s.connection.ahead s.inbound) := by
  have hmove : s.move? .receive = some s.receive := by simp [move?, h.live]
  have hkept := Connection.kept_receive s.connection s.inbound
  have hexpects := h.expects
  generalize hrest : frames.drop s.taken = expected at hexpects
  cases hexpects with
  | @frame frame rest c i receives front behind =>
    rw [receives] at hkept
    have hreceive : s.receive = (s.received c i).answered frame := by
      have hopen : (s.received c i).mailbox.Open := h.converses.delivers.opened h.live
      rw [Served.receive, receives]
      exact dispatch_eq hopen frame
    refine ⟨h.keep .receive hmove rfl ?_ ?_, ?_, .inl ?_⟩
    · rw [hreceive]
      exact h.live
    · rw [hreceive]
      exact hkept.closed.trans h.opened
    · rw [hreceive]
      rfl
    · rw [hreceive]
      exact hkept.counted
  | @wait _ c i receives same incomplete =>
    rw [receives] at hkept
    have hreceive : s.receive = s.received c i := by
      rw [Served.receive, receives]
      rfl
    refine ⟨h.keep .receive hmove rfl ?_ ?_, ?_, .inr ⟨?_, ?_⟩⟩
    · rw [hreceive]
      exact h.live
    · rw [hreceive]
      exact hkept.closed.trans h.opened
    · rw [hreceive]
      rfl
    · rw [hreceive]
      exact hkept.counted
    · intro frame hframe
      apply incomplete frame (frames.drop (s.taken + 1))
      rw [← hrest]
      obtain ⟨hlt, rfl⟩ := List.getElem?_eq_some_iff.mp hframe
      exact List.drop_eq_getElem_cons hlt

/-- Every reply that waits can be encoded. -/
theorem encodes (h : Smooth config router context frames moves s) {o : Outbound}
    (ho : o ∈ s.mailbox.queue) : ∃ reply, s.processor.encodeOutbound o = .ok reply := by
  obtain ⟨reply, hreply, -⟩ := h.converses.sendable h.quiet ho
  exact ⟨reply, hreply⟩

/-- Writing writes a reply. -/
theorem write (h : Smooth config router context frames moves s)
    (hmove : s.move? (.write .complete) = some s') :
    Smooth config router context frames (moves ++ [.write .complete]) s' ∧
      s'.taken = s.taken ∧ ∃ bs, bs ≠ [] ∧ s'.written = s.written ++ bs := by
  have hfits := h.converses.fits h.quiet
  generalize hm : Move.write .complete = m at hmove
  cases step_of_move hmove with
  | skip live queue encodes =>
    obtain ⟨reply, hreply⟩ := h.encodes (queue ▸ List.mem_cons_self)
    rw [hreply] at encodes
    cases encodes
  | refuse live queue encodes large =>
    have hle := hfits _ (queue ▸ List.mem_cons_self) _ encodes
    exact absurd large (Nat.not_lt.mpr hle)
  | @write o rest frame bs live queue encodes bytes =>
    refine ⟨h.keep .write hmove rfl h.live h.opened, rfl, bs, ?_, rfl⟩
    rw [← List.length_pos_iff, bytes, Framing.length_frameBytes]
    omega
  | _ => cases hm

/-- The server can write as long as a reply waits. -/
theorem exists_write (h : Smooth config router context frames moves s)
    (hqueue : s.mailbox.queue ≠ []) : ∃ s', s.move? (.write .complete) = some s' := by
  obtain ⟨o, rest, hqueue⟩ := List.exists_cons_of_ne_nil hqueue
  obtain ⟨reply, hreply⟩ := h.encodes (hqueue ▸ List.mem_cons_self)
  have hle := h.converses.fits h.quiet o (hqueue ▸ List.mem_cons_self) reply hreply
  simp [move?, h.live, write?, Mailbox.receive, hqueue, hreply, Connection.prepare_eq,
    Nat.not_lt.mpr hle]

end Smooth

end Served

end Switchboard
