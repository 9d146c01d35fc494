import Switchboard.Proofs.Framing.Transfer
import Switchboard.Proofs.Server.Behaviour
import Switchboard.Proofs.Server.Refinement

/-!
# Replies that can always be sent

A server answers a frame by one reply at most, and that one can be encoded and is not longer than
the frame. The frame was within the limit of its connection, so the reply is within it as well. If
no routed job replies, then, a connection never drops a reply, and never ends because one is too
large.
-/

namespace Switchboard

variable {C : Type}

/-! ## One frame -/

/-- A reply has a frame that is not longer than the one it answers, and that can be sent. -/
structure Modest {P : Type} (p : Processor P) (f : Framing) (frame : Bytes) (o : Outbound)
    (reply : Frame) : Prop where
  encodes : p.encodeOutbound o = .ok reply
  length_le : reply.length ≤ frame.length
  sends : ∀ buffer, f.encode reply buffer = .ok (buffer ++ f.frameBytes reply.toBytes)

/-- A splitter gives no frame above its limit. -/
theorem Intake.length_le_of_mem_frames {order : ByteOrder} {max : Nat} {steps : List IntakeStep}
    {frame : Bytes} (h : frame ∈ (start order max).frames steps) :
    frame.length ≤ (Framing.new order max).limit :=
  ((accounts_start order max).after_run steps).fits frame h

theorem length_serverReplies_le (d : Decoded) : (serverReplies d).length ≤ 1 := by
  cases d with
  | message m =>
    rw [serverReplies, Option.length_toList]
    split <;> decide
  | raw r => exact Nat.le_refl 1

section

variable {order : ByteOrder} {router : Bool} {context : C} {frame : Bytes} {f : Framing}

theorem modest_of_mem_replies (hfits : frame.length ≤ f.limit) {o : Outbound}
    (h : o ∈ (serverProcessor order router).replies context frame) :
    ∃ reply, Modest (serverProcessor order router) f frame o reply := by
  obtain ⟨reply, hencode, hle⟩ := reply_fits h
  exact ⟨reply, hencode, hle, Framing.encode_of_le (Nat.le_trans hle hfits)⟩

/-- A frame within the limit is answered by one modest reply at most, in any session. -/
theorem modest_of_handle (hfits : frame.length ≤ f.limit) {m m' : Mailbox} {d : Decoded}
    {submissions : List (Submission C)}
    (h : (serverProcessor order router).handle context frame m = .ok (d, m', submissions)) :
    ∃ os, m'.queue = m.queue ++ os ∧ os.length ≤ 1 ∧
      ∀ o ∈ os, ∃ reply, Modest (serverProcessor order router) f frame o reply := by
  rcases hdecode : (serverProcessor order router).decode frame with e | d'
  · rw [handle_serverProcessor_of_error hdecode] at h
    cases h
  · rw [handle_serverProcessor hdecode] at h
    cases h
    by_cases hopen : m.Open
    · refine ⟨serverReplies d, ?_, length_serverReplies_le d, ?_⟩
      · rw [hopen.accept, Mailbox.queue_enqueue]
      · intro o ho
        rw [← (replies_serverProcessor hdecode context).1] at ho
        exact modest_of_mem_replies hfits ho
    · refine ⟨[], ?_, Nat.zero_le 1, nofun⟩
      rw [Mailbox.accept_of_not_open hopen, List.append_nil]

end

/-! ## Whole runs -/

namespace Served

/-- No reply stands in the way of a connection. -/
structure Unhindered (s : Served C) : Prop where
  /-- Every reply that waits has a frame, and the connection prepares it. -/
  waiting : ∀ o ∈ s.mailbox.queue, ∃ reply bs, s.processor.encodeOutbound o = .ok reply ∧
    (s.connection.prepare reply).1 = .ok bs
  /-- Writing takes no reply without writing its frame. -/
  written : ∀ s', s.move? (.write .complete) = some s' → ∃ o rest reply,
    s.mailbox.queue = o :: rest ∧ s.processor.encodeOutbound o = .ok reply ∧
    s'.mailbox.queue = rest ∧ s'.ended = none ∧
    s'.written = s.written ++ s.connection.splitter.framing.frameBytes reply.toBytes
  ended : ∀ n limit, s.ended ≠ some (.sendFailed (.frameTooLarge n limit))

variable {config : NetworkConfig} {router : Bool} {context : C} {moves : List Move} {s : Served C}

theorem Ends.unhindered (h : Ends config router context moves s)
    (hquiet : ∀ m ∈ moves, m.isReply = false) : Unhindered s := by
  refine ⟨?_, ?_, ?_⟩
  · intro o ho
    obtain ⟨reply, hreply, hle⟩ := h.sendable hquiet ho
    refine ⟨reply, s.connection.splitter.framing.frameBytes reply.toBytes, hreply, ?_⟩
    rw [Connection.prepare_eq, if_neg (Nat.not_lt.mpr hle)]
  · intro s' hmove
    generalize hm : Move.write .complete = m at hmove
    cases step_of_move hmove with
    | skip live queue encodes =>
      obtain ⟨reply, hreply, -⟩ := h.sendable hquiet (queue ▸ List.mem_cons_self)
      rw [hreply] at encodes
      cases encodes
    | refuse live queue encodes large =>
      have hle := h.fits hquiet _ (queue ▸ List.mem_cons_self) _ encodes
      exact absurd large (Nat.not_lt.mpr hle)
    | @write o rest reply bs live queue encodes bytes =>
      refine ⟨o, rest, reply, queue, encodes, rfl, live, ?_⟩
      rw [← bytes]
      rfl
    | _ => cases hm
  · intro n limit hended
    cases h.cause hquiet _ hended

/-- A server never answers with more than it received. Each frame that a connection takes, whatever
its limit is, is answered by one reply at most, which is encoded into no longer a frame and is
within the limit. So a connection whose routed jobs do not reply drops no reply, and is not ended by
one. -/
theorem bounded_replies (order : ByteOrder) (router : Bool) (context : C) :
    (∀ (max : Nat) (steps : List IntakeStep), ∀ frame ∈ (Intake.start order max).frames steps,
      ∀ (m m' : Mailbox) (d : Decoded) (submissions : List (Submission C)),
      (serverProcessor order router).handle context frame m = .ok (d, m', submissions) →
        ∃ os, m'.queue = m.queue ++ os ∧ os.length ≤ 1 ∧ ∀ o ∈ os, ∃ reply,
          Modest (serverProcessor order router) (Framing.new order max) frame o reply) ∧
    (∀ (config : NetworkConfig) (moves : List Move) (s : Served C),
      (Served.new config router context).run? moves = some s →
        (∀ m ∈ moves, m.isReply = false) → Unhindered s) := by
  constructor
  · intro max steps frame hframe m m' d submissions hhandle
    exact modest_of_handle (Intake.length_le_of_mem_frames hframe) hhandle
  · intro config moves s hrun hquiet
    exact (ends_of_run hrun).unhindered hquiet

/-- A ping with two bytes too many, on a stream whose limit it reaches. -/
def longPing : Bytes :=
  [0, 1, 0, 0, 0, 7, 0, 0, 0, 0, 0, 0, 0, 0, 9, 9]

/-- The ping arrives and its pong is written. -/
def longPingRun : List Move :=
  [.arrive ([0, 0, 0, 16] ++ longPing), .receive, .write .complete]

theorem bounded_replies_longPing :
    (longPing ∈ (Intake.start .big 16).frames [.feed ([0, 0, 0, 16] ++ longPing), .look] ∧
      ∃ d m submissions, (serverProcessor .big true).handle () longPing .new =
          .ok (d, m, submissions) ∧
        ∃ os, m.queue = Mailbox.new.queue ++ os ∧ os.length ≤ 1 ∧ ∀ o ∈ os, ∃ reply,
          Modest (serverProcessor .big true) (Framing.new .big 16) longPing o reply) ∧
    ∃ s, (Served.new { maxFrameSize := 16 } true ()).run? longPingRun = some s ∧
      s.written = [0, 0, 0, 14, 0, 2, 0, 0, 0, 7, 0, 0, 0, 0, 0, 0, 0, 0] ∧ Unhindered s := by
  have hbounded := bounded_replies .big true ()
  constructor
  · have hframe : longPing ∈
        (Intake.start .big 16).frames [.feed ([0, 0, 0, 16] ++ longPing), .look] := by
      decide
    have hok : ((serverProcessor .big true).handle () longPing .new).isOk = true := by
      decide
    refine ⟨hframe, ?_⟩
    rcases hhandle : (serverProcessor .big true).handle () longPing .new with e | ⟨d, m, sent⟩
    · rw [hhandle] at hok
      cases hok
    · exact ⟨d, m, sent, rfl, hbounded.1 16 _ longPing hframe _ m d sent hhandle⟩
  · have hrun : ((Served.new { maxFrameSize := 16 } true ()).run? longPingRun).map
        Served.written = some [0, 0, 0, 14, 0, 2, 0, 0, 0, 7, 0, 0, 0, 0, 0, 0, 0, 0] := by
      decide +kernel
    obtain ⟨s, hs, hwritten⟩ := Option.map_eq_some_iff.mp hrun
    exact ⟨s, hs, hwritten, hbounded.2 _ longPingRun s hs (by decide)⟩

end Served

end Switchboard
