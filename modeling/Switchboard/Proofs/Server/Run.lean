import Switchboard.Proofs.Connection.Sending
import Switchboard.Proofs.Session.Mailbox
import Switchboard.Server.Served

/-!
# Runs of a served connection

What one move of a served connection can do is said once, as a relation. Dispatching a frame is
described by what that frame does alone, in a session of its own: its replies go to the end of the
mailbox and its submissions to the router, and nothing else changes.
-/

namespace Switchboard

variable {C : Type}

/-! ## One frame alone -/

namespace Responder

/-- The replies that a call makes in an open session. -/
def replies (c : Call Responder C) : List Outbound :=
  (respond Mailbox.new c).1.queue

/-- What a call submits to the router. -/
def submissions (c : Call Responder C) : List (Submission C) :=
  (respond Mailbox.new c).2

theorem respond_eq {m : Mailbox} (h : m.Open) (c : Call Responder C) :
    respond m c = (m.enqueue (replies c), submissions c) := by
  have hnew := Mailbox.open_new
  have offered {n : Mailbox} (hn : n.Open) (o : Outbound) : n.offer (n.send o) = n.enqueue [o] := by
    rw [hn.send_eq]
    rfl
  cases c with
  | handler party message context =>
    cases party with
    | answerPing =>
      rcases hping : message.as? Builtin.ping with _ | v
      · simp [replies, submissions, respond, hping, Mailbox.enqueue_nil, Mailbox.new]
      · simp only [replies, submissions, respond, hping, Mailbox.reply, offered h, offered hnew]
        rfl
    | sendBack => exact Prod.ext (Mailbox.enqueue_nil m).symm rfl
    | router => exact Prod.ext (Mailbox.enqueue_nil m).symm rfl
  | router party submission =>
    cases party <;> exact Prod.ext (Mailbox.enqueue_nil m).symm rfl
  | raw party message context =>
    cases party with
    | answerPing => exact Prod.ext (Mailbox.enqueue_nil m).symm rfl
    | sendBack =>
      simp only [replies, submissions, respond, Mailbox.replyRaw, offered h, offered hnew]
      rfl
    | router => exact Prod.ext (Mailbox.enqueue_nil m).symm rfl

theorem respondAll_eq {m : Mailbox} (h : m.Open) (calls : List (Call Responder C)) :
    respondAll m calls = (m.enqueue (calls.flatMap replies), calls.flatMap submissions) := by
  induction calls generalizing m with
  | nil => exact Prod.ext (Mailbox.enqueue_nil m).symm rfl
  | cons c rest ih =>
    rw [respondAll, respond_eq h]
    dsimp only
    rw [ih (h.enqueue _), Mailbox.enqueue_enqueue]
    rfl

end Responder

namespace Processor

variable (p : Processor Responder) (context : C) (frame : Bytes)

/-- The replies that a frame makes, alone in an open session. -/
def replies : List Outbound :=
  match p.handle context frame Mailbox.new with
  | .ok (_, m, _) => m.queue
  | .error _ => []

/-- What a frame submits to the router. -/
def submissions : List (Submission C) :=
  match p.handle context frame Mailbox.new with
  | .ok (_, _, submissions) => submissions
  | .error _ => []

/-- Whether a frame can be decoded and delivered. -/
def Usable : Prop :=
  ∃ d, ∃ calls : List (Call Responder C), p.decode frame = .ok d ∧ p.route d context = .ok calls

variable {p context frame}

/-- Handling a frame adds its replies to an open mailbox. -/
theorem handle_eq {d : Decoded} {calls : List (Call Responder C)} (hdecode : p.decode frame = .ok d)
    (hroute : p.route d context = .ok calls) {m : Mailbox} (h : m.Open) :
    p.handle context frame m =
      .ok (d, m.enqueue (calls.flatMap Responder.replies),
        calls.flatMap Responder.submissions) := by
  rw [handle, hdecode]
  dsimp only
  rw [hroute]
  dsimp only
  rw [Responder.respondAll_eq h]

/-- A frame that cannot be used does nothing in any session. -/
theorem handle_of_not_usable (h : ¬ p.Usable context frame) (m : Mailbox) :
    ∃ e, p.handle context frame m = .error e := by
  unfold handle
  rcases hdecode : p.decode frame with e | d
  · exact ⟨_, rfl⟩
  · dsimp only
    rcases hroute : (p.route d context : Except DispatchError (List (Call Responder C))) with e | calls
    · exact ⟨_, rfl⟩
    · exact absurd ⟨d, calls, hdecode, hroute⟩ h

theorem handle_of_usable (h : p.Usable context frame) {m : Mailbox} (hm : m.Open) :
    ∃ d, p.handle context frame m =
      .ok (d, m.enqueue (p.replies context frame), p.submissions context frame) := by
  obtain ⟨d, calls, hdecode, hroute⟩ := h
  refine ⟨d, ?_⟩
  rw [replies, submissions, handle_eq hdecode hroute hm,
    handle_eq hdecode hroute Mailbox.open_new]
  rfl

theorem silent_of_not_usable (h : ¬ p.Usable context frame) :
    p.replies context frame = [] ∧ p.submissions context frame = [] := by
  obtain ⟨e, he⟩ := handle_of_not_usable h Mailbox.new
  rw [replies, submissions, he]
  exact ⟨rfl, rfl⟩

end Processor

/-! ## What a move can do -/

namespace Served

/-- A connection with what it received, and what that left. -/
def received (s : Served C) (connection : Connection) (inbound : Inbound) : Served C :=
  { s with connection := connection, inbound := inbound }

/-- A connection without the oldest of its replies. -/
def dropReply (s : Served C) (rest : List Outbound) : Served C :=
  { s with mailbox := { s.mailbox with queue := rest } }

/-- A connection that has prepared some bytes and written some. -/
def wrote (s : Served C) (prepared written : Bytes) : Served C :=
  { s with
    connection := { s.connection with writeBuffer := prepared }
    written := s.written ++ written }

/-- The moves of a run. -/
inductive Step (s : Served C) : Move → Served C → Prop
  | arrive {piece : Bytes} (opened : s.inbound.closed = false) :
      Step s (.arrive piece) { s with inbound := s.inbound.arrive piece }
  | close : Step s .close { s with inbound := s.inbound.close }
  | dispatch {frame : Bytes} {c : Connection} {i : Inbound} (live : s.ended = none)
      (receives : s.connection.receive s.inbound = (.frame frame, c, i)) :
      Step s .receive ((s.received c i).dispatch frame)
  | wait {c : Connection} {i : Inbound} (live : s.ended = none)
      (receives : s.connection.receive s.inbound = (.pending, c, i)) :
      Step s .receive (s.received c i)
  | finishClosed {c : Connection} {i : Inbound} (live : s.ended = none)
      (receives : s.connection.receive s.inbound = (.ended, c, i)) :
      Step s .receive ((s.received c i).finish .closed)
  | finishFailed {e : ConnectionError} {c : Connection} {i : Inbound} (live : s.ended = none)
      (receives : s.connection.receive s.inbound = (.failed e, c, i)) :
      Step s .receive ((s.received c i).finish (.receiveFailed e))
  /-- A reply that cannot be encoded is dropped. -/
  | skip {w : Writing} {o : Outbound} {rest : List Outbound} {e : CodecError}
      (live : s.ended = none) (queue : s.mailbox.queue = o :: rest)
      (encodes : s.processor.encodeOutbound o = .error e) : Step s (.write w) (s.dropReply rest)
  /-- A reply above the limit ends the connection. -/
  | refuse {w : Writing} {o : Outbound} {rest : List Outbound} {frame : Frame}
      (live : s.ended = none) (queue : s.mailbox.queue = o :: rest)
      (encodes : s.processor.encodeOutbound o = .ok frame)
      (large : s.connection.splitter.framing.limit < frame.length) :
      Step s (.write w)
        (((s.dropReply rest).wrote [] []).finish
          (.sendFailed (.frameTooLarge frame.length s.connection.splitter.framing.limit)))
  | write {o : Outbound} {rest : List Outbound} {frame : Frame} {bs : Bytes}
      (live : s.ended = none) (queue : s.mailbox.queue = o :: rest)
      (encodes : s.processor.encodeOutbound o = .ok frame)
      (bytes : bs = s.connection.splitter.framing.frameBytes frame.toBytes) :
      Step s (.write .complete)
        { (s.dropReply rest).wrote bs bs with
          connection := ((s.dropReply rest).wrote bs bs).connection.countSent }
  | breakOff {o : Outbound} {rest : List Outbound} {frame : Frame} {bs : Bytes} {count : Nat}
      {e : OsError} (live : s.ended = none) (queue : s.mailbox.queue = o :: rest)
      (encodes : s.processor.encodeOutbound o = .ok frame)
      (bytes : bs = s.connection.splitter.framing.frameBytes frame.toBytes) :
      Step s (.write (.broken count e))
        (((s.dropReply rest).wrote bs (bs.take count)).finish (.sendFailed (.io (.os e))))
  | abortWrite {o : Outbound} {rest : List Outbound} {frame : Frame} {bs : Bytes} {count : Nat}
      (live : s.ended = none) (queue : s.mailbox.queue = o :: rest)
      (encodes : s.processor.encodeOutbound o = .ok frame)
      (bytes : bs = s.connection.splitter.framing.frameBytes frame.toBytes) :
      Step s (.write (.aborted count))
        (((s.dropReply rest).wrote bs (bs.take count)).finish .aborted)
  | abort (live : s.ended = none) : Step s .abort (s.finish .aborted)
  | reply {o : Outbound} (opened : s.mailbox.Open) :
      Step s (.reply o)
        { s with mailbox := s.mailbox.enqueue [o], accepted := s.accepted ++ [o] }

variable {s s' : Served C}

theorem step_receive (live : s.ended = none) : Step s .receive s.receive := by
  unfold receive
  generalize hr : s.connection.receive s.inbound = r
  obtain ⟨result, c, i⟩ := r
  cases result with
  | frame frame => exact .dispatch live hr
  | ended => exact .finishClosed live hr
  | failed e => exact .finishFailed live hr
  | pending => exact .wait live hr

theorem step_write {w : Writing} (live : s.ended = none) (h : s.write? w = some s') :
    Step s (.write w) s' := by
  unfold write? Mailbox.receive at h
  rcases hqueue : s.mailbox.queue with _ | ⟨o, rest⟩
  · rw [hqueue] at h
    cases h
  · rw [hqueue] at h
    dsimp only at h
    rcases hencode : s.processor.encodeOutbound o with e | frame
    · rw [hencode] at h
      cases h
      exact .skip live hqueue hencode
    · rw [hencode] at h
      dsimp only at h
      rw [Connection.prepare_eq] at h
      by_cases hlarge : s.connection.splitter.framing.limit < frame.length
      · rw [if_pos hlarge] at h
        cases h
        have hstep := Step.refuse (w := w) live hqueue hencode hlarge
        rw [wrote, List.append_nil] at hstep
        exact hstep
      · rw [if_neg hlarge] at h
        cases w with
        | complete =>
          cases h
          exact .write live hqueue hencode rfl
        | broken count e =>
          cases h
          have hstep : Step s (.write (.broken count e)) _ := .breakOff live hqueue hencode rfl
          exact hstep
        | aborted count =>
          cases h
          have hstep : Step s (.write (.aborted count)) _ := .abortWrite live hqueue hencode rfl
          exact hstep

/-- Every move is one of the steps. -/
theorem step_of_move {m : Move} (h : s.move? m = some s') : Step s m s' := by
  have live {t : Option (Served C)} (ht : (if s.ended.isSome then none else t) = some s') :
      s.ended = none ∧ t = some s' := by
    split at ht
    · cases ht
    · next hlive => exact ⟨Option.not_isSome_iff_eq_none.mp hlive, ht⟩
  cases m with
  | arrive piece =>
    simp only [move?] at h
    split at h
    · cases h
    · next hopened =>
      cases h
      exact .arrive (eq_false_of_ne_true hopened)
  | close =>
    cases h
    exact .close
  | receive =>
    obtain ⟨hlive, hs⟩ := live h
    cases hs
    exact step_receive hlive
  | write w =>
    obtain ⟨hlive, hs⟩ := live h
    exact step_write hlive hs
  | abort =>
    obtain ⟨hlive, hs⟩ := live h
    cases hs
    exact .abort hlive
  | reply o =>
    simp only [move?, Served.reply] at h
    rcases hsend : s.mailbox.send o with e | m
    · rw [hsend] at h
      cases h
    · obtain ⟨hopen, rfl⟩ := Mailbox.open_of_send hsend
      rw [hsend] at h
      cases h
      exact .reply hopen

/-- Nothing but the stream goes on once a connection is over and its mailbox is shut. -/
theorem Step.over_cases {m : Move} (h : Step s m s') (hover : s.ended ≠ none)
    (hshut : ¬ s.mailbox.Open) :
    (∃ piece, s.inbound.closed = false ∧ s' = { s with inbound := s.inbound.arrive piece }) ∨
      s' = { s with inbound := s.inbound.close } := by
  cases h with
  | @arrive piece opened => exact .inl ⟨piece, opened, rfl⟩
  | close => exact .inr rfl
  | reply opened => exact absurd opened hshut
  | dispatch live receives => exact absurd live hover
  | wait live receives => exact absurd live hover
  | finishClosed live receives => exact absurd live hover
  | finishFailed live receives => exact absurd live hover
  | skip live queue encodes => exact absurd live hover
  | refuse live queue encodes large => exact absurd live hover
  | write live queue encodes bytes => exact absurd live hover
  | breakOff live queue encodes bytes => exact absurd live hover
  | abortWrite live queue encodes bytes => exact absurd live hover
  | abort live => exact absurd live hover

/-- What holds at the start of a run, and is kept by every move, holds at its end. -/
theorem run_induction {motive : List Move → Served C → Prop}
    (keep : ∀ {moves s m s'}, motive moves s → s.move? m = some s' → motive (moves ++ [m]) s')
    {before moves : List Move} (h : motive before s) (hrun : s.run? moves = some s') :
    motive (before ++ moves) s' := by
  induction moves generalizing s before with
  | nil =>
    cases hrun
    rw [List.append_nil]
    exact h
  | cons m rest ih =>
    rw [run?, List.foldlM_cons] at hrun
    obtain ⟨mid, hm, hrest⟩ := Option.bind_eq_some_iff.mp hrun
    rw [List.append_cons]
    exact ih (keep h hm) hrest

end Served

end Switchboard
