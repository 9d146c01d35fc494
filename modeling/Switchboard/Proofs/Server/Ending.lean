import Switchboard.Proofs.Server.Conversation

/-!
# How a connection ends

A served connection is over when receiving comes to the end of its stream or fails, when the stream
does not take what is written, or when the server aborts it. No frame ends it by what it holds: by
the time that receiving ends it, all complete frames that arrived have been dispatched, and writing
cannot fail by the length of a reply.
-/

namespace Switchboard

variable {C : Type}

namespace Served

/-! ## No more frames -/

/-- No complete frame is ahead, whatever else arrives. -/
def Dry (s : Served C) : Prop :=
  ∀ more, (s.inbound.closed = true → more = []) →
    (s.connection.splitter.framing.parse (s.connection.ahead s.inbound ++ more)).frames = []

variable {s s' : Served C} {m : Move} {moves : List Move} {frames : List Bytes}

/-- Receiving ends or fails only if no complete frame is ahead, and none will be. -/
theorem dry_received (hs : s.connection.splitter.Sound) {result : Connection.Received}
    {c : Connection} {i : Inbound} (hreceive : s.connection.receive s.inbound = (result, c, i))
    (hframe : ∀ frame, result ≠ .frame frame) (hpending : result ≠ .pending) :
    Dry (s.received c i) := by
  have hkept := Connection.kept_receive s.connection s.inbound
  have hcase := Connection.frame_or_verdict (s := s.inbound) hs
  rw [hreceive] at hkept hcase
  rcases hcase with ⟨frame, hresult, -⟩ | ⟨tail, hparse, hresult⟩
  · exact absurd hresult (hframe frame)
  · have hahead : s.connection.ahead s.inbound = c.ahead i := by
      rw [hkept.ahead]
      cases result with
      | frame frame => exact absurd rfl (hframe frame)
      | _ => rfl
    intro more hmore
    show (c.splitter.framing.parse (c.ahead i ++ more)).frames = []
    rw [hkept.framing, ← hahead]
    -- Behind a length above the limit nothing is read; otherwise nothing comes any more.
    have hbytes := Framing.framesBytes_parse s.connection.splitter.framing
      (s.connection.ahead s.inbound)
    rw [hparse] at hbytes
    cases tail with
    | tooLarge n rest =>
      cases hbytes
      rw [Framing.parse_tooLarge_append hparse]
    | more rest =>
      have hclosed : s.inbound.closed = true := by
        rcases hclosed : s.inbound.closed with _ | _
        · rw [hclosed] at hresult
          exact absurd hresult hpending
        · rfl
      rw [hmore (hkept.closed.trans hclosed), List.append_nil, hparse]

/-! ## The cause of an end -/

/-- What ended a connection. -/
inductive EndCause (moves : List Move) (s : Served C) : EndReason → Prop
  /-- Every complete frame that arrived has been dispatched. -/
  | closed (dry : Dry s) : EndCause moves s .closed
  | receiveFailed {e : ConnectionError} (dry : Dry s) : EndCause moves s (.receiveFailed e)
  | broken {count : Nat} {e : OsError} (move : .write (.broken count e) ∈ moves) :
      EndCause moves s (.sendFailed (.io (.os e)))
  | abortedWriting {count : Nat} (move : .write (.aborted count) ∈ moves) :
      EndCause moves s .aborted
  | aborted (move : .abort ∈ moves) : EndCause moves s .aborted

/-- A connection that is over stays as it is, and no more frames come. -/
theorem Step.over (hstep : Step s m s') (h : Delivers s) (hover : s.ended ≠ none) :
    s'.ended = s.ended ∧ s'.accepted = s.accepted ∧ s'.written = s.written ∧
      (Dry s → Dry s') := by
  have hshut : ¬ s.mailbox.Open := fun hopen => hover (h.live_of_open hopen)
  rcases hstep.over_cases hover hshut with ⟨piece, opened, rfl⟩ | rfl
  · refine ⟨rfl, rfl, rfl, ?_⟩
    intro hdry more hmore
    have hahead : s.connection.ahead (s.inbound.arrive piece) =
        s.connection.ahead s.inbound ++ piece := by
      simp [Connection.ahead, Inbound.bytes, Inbound.arrive]
    show (s.connection.splitter.framing.parse
      (s.connection.ahead (s.inbound.arrive piece) ++ more)).frames = []
    rw [hahead, List.append_assoc]
    refine hdry (piece ++ more) ?_
    intro hclosed
    rw [opened] at hclosed
    cases hclosed
  · exact ⟨rfl, rfl, rfl, fun hdry more hmore => hdry more fun _ => hmore rfl⟩

theorem EndCause.step {reason : EndReason} (h : EndCause moves s reason)
    (hdry : Dry s → Dry s') : EndCause (moves ++ [m]) s' reason := by
  cases h with
  | closed dry => exact .closed (hdry dry)
  | receiveFailed dry => exact .receiveFailed (hdry dry)
  | broken move => exact .broken (List.mem_append_left _ move)
  | abortedWriting move => exact .abortedWriting (List.mem_append_left _ move)
  | aborted move => exact .aborted (List.mem_append_left _ move)

/-- Every end has its cause, unless a reply is too long. -/
theorem Step.endCause (hstep : Step s m s') (hdelivers : Delivers s)
    (hs : s.connection.splitter.Sound)
    (hfits : ∀ o ∈ s.mailbox.queue, ∀ frame, s.processor.encodeOutbound o = .ok frame →
      frame.length ≤ s.connection.splitter.framing.limit)
    (h : ∀ reason, s.ended = some reason → EndCause moves s reason) {reason : EndReason}
    (hended : s'.ended = some reason) : EndCause (moves ++ [m]) s' reason := by
  have hlast : m ∈ moves ++ [m] := List.mem_append_right _ List.mem_cons_self
  rcases hlive : s.ended with _ | old
  · have live_still (hsame : s'.ended = s.ended) : EndCause (moves ++ [m]) s' reason := by
      rw [hsame, hlive] at hended
      cases hended
    cases hstep with
    | arrive opened => exact live_still rfl
    | close => exact live_still rfl
    | dispatch live receives => exact live_still (ended_dispatch _ _)
    | wait live receives => exact live_still rfl
    | finishClosed live receives =>
      cases hended
      exact .closed (dry_received hs receives nofun nofun)
    | finishFailed live receives =>
      cases hended
      exact .receiveFailed (dry_received hs receives nofun nofun)
    | skip live queue encodes => exact live_still rfl
    | @refuse w o rest frame live queue encodes large =>
      have hle := hfits o (queue ▸ List.mem_cons_self) frame encodes
      exact absurd large (Nat.not_lt.mpr hle)
    | write live queue encodes bytes => exact live_still rfl
    | breakOff live queue encodes bytes =>
      cases hended
      exact .broken hlast
    | abortWrite live queue encodes bytes =>
      cases hended
      exact .abortedWriting hlast
    | abort live =>
      cases hended
      exact .aborted hlast
    | reply opened => exact live_still rfl
  · obtain ⟨hsame, -, -, hdry⟩ := hstep.over hdelivers (by rw [hlive]; exact nofun)
    exact (h reason (hsame ▸ hended)).step hdry

/-! ## What a clean end loses -/

/-- The moment at which a connection came to the end of its stream; nothing was taken or written
since. -/
structure ClosedAt (start : Served C) (before moves : List Move) (mid s : Served C) : Prop where
  moves : before ++ [.receive] <+: moves
  run : start.run? before = some mid
  live : mid.ended = none
  receives : (mid.connection.receive mid.inbound).1 = .ended
  accepted : s.accepted = mid.accepted
  written : s.written = mid.written

theorem run?_append {start : Served C} (hrun : start.run? moves = some s)
    (hmove : s.move? m = some s') : start.run? (moves ++ [m]) = some s' := by
  rw [run?, List.foldlM_append]
  rw [run?] at hrun
  rw [hrun]
  simpa using hmove

/-- A connection ends cleanly only by receiving. -/
theorem Step.closes (hstep : Step s m s') (live : s.ended = none)
    (hended : s'.ended = some .closed) :
    m = .receive ∧ (s.connection.receive s.inbound).1 = .ended ∧ s'.accepted = s.accepted ∧
      s'.written = s.written := by
  have live_still (hsame : s'.ended = s.ended) {p : Prop} : p := by
    rw [hsame, live] at hended
    cases hended
  cases hstep with
  | finishClosed live receives => exact ⟨rfl, by rw [receives], rfl, rfl⟩
  | arrive opened => exact live_still rfl
  | close => exact live_still rfl
  | dispatch live receives => exact live_still (ended_dispatch _ _)
  | wait live receives => exact live_still rfl
  | finishFailed live receives => cases hended
  | skip live queue encodes => exact live_still rfl
  | refuse live queue encodes large => cases hended
  | write live queue encodes bytes => exact live_still rfl
  | breakOff live queue encodes bytes => cases hended
  | abortWrite live queue encodes bytes => cases hended
  | abort live => cases hended
  | reply opened => exact live_still rfl

variable {config : NetworkConfig} {router : Bool} {context : C}

/-- What holds of a connection at every moment, and the moment of a clean end. -/
structure Closes (config : NetworkConfig) (router : Bool) (context : C) (moves : List Move)
    (s : Served C) : Prop extends Converses config router context moves s where
  run : (Served.new config router context).run? moves = some s
  closed : s.ended = some .closed →
    ∃ before mid, ClosedAt (Served.new config router context) before moves mid s

theorem Closes.step (h : Closes config router context moves s) (hmove : s.move? m = some s') :
    Closes config router context (moves ++ [m]) s' := by
  have hstep := step_of_move hmove
  refine ⟨h.toConverses.step hstep, run?_append h.run hmove, ?_⟩
  intro hended
  rcases hlive : s.ended with _ | reason
  · obtain ⟨rfl, hreceives, haccepted, hwritten⟩ := hstep.closes hlive hended
    exact ⟨moves, s, List.prefix_rfl, h.run, hlive, hreceives, haccepted, hwritten⟩
  · -- It was over before, and has not changed since.
    obtain ⟨hsame, haccepted, hwritten, -⟩ := hstep.over h.delivers (by rw [hlive]; exact nofun)
    obtain ⟨before, mid, hmid⟩ := h.closed (hsame ▸ hended)
    exact ⟨before, mid, hmid.moves.trans (List.prefix_append _ _), hmid.run, hmid.live,
      hmid.receives, haccepted.trans hmid.accepted, hwritten.trans hmid.written⟩

theorem closes_of_run (hrun : (Served.new config router context).run? moves = some s) :
    Closes config router context moves s :=
  run_induction (motive := Closes config router context) (fun h hmove => h.step hmove)
    ⟨converses_new config router context, rfl, fun h => nomatch h⟩ hrun

/-- A clean end loses the replies that wait when the end of the stream is received, and no others:
they are all written only if none of them waits. -/
theorem lost_of_closed (config : NetworkConfig) (router : Bool) (context : C) {moves : List Move}
    {s : Served C} (hrun : (Served.new config router context).run? moves = some s)
    (hended : s.ended = some .closed) :
    ∃ before mid, ClosedAt (Served.new config router context) before moves mid s ∧
      s.bytesOf s.accepted = s.written ++ s.bytesOf mid.mailbox.queue ∧
      (s.written = s.bytesOf s.accepted ↔ s.bytesOf mid.mailbox.queue = []) := by
  have h := closes_of_run hrun
  obtain ⟨before, mid, hmid⟩ := h.closed hended
  have hbefore := converses_of_run hmid.run
  have hbytes (os : List Outbound) : s.bytesOf os = mid.bytesOf os := by
    rw [h.setup.bytesOf_eq, hbefore.setup.bytesOf_eq]
  have hall : s.bytesOf s.accepted = s.written ++ s.bytesOf mid.mailbox.queue := by
    rw [hbytes, hbytes, hmid.accepted, hmid.written]
    exact hbefore.delivers.all hmid.live
  refine ⟨before, mid, hmid, hall, ?_⟩
  rw [hall]
  exact List.self_eq_append_right

/-- A ping arrives and the peer closes its side; both are received before the pong is written. -/
def hastyRun : List Move :=
  [.arrive [0, 0, 0, 14, 0, 1, 0, 0, 0, 7, 0, 0, 0, 0, 0, 0, 0, 0], .close, .receive, .receive]

theorem lost_of_hastyRun :
    ∃ s, (Served.new {} true ()).run? hastyRun = some s ∧ s.ended = some .closed ∧
      ∃ before mid, ClosedAt (Served.new {} true ()) before hastyRun mid s ∧
        s.bytesOf s.accepted = s.written ++ s.bytesOf mid.mailbox.queue ∧
        (s.written = s.bytesOf s.accepted ↔ s.bytesOf mid.mailbox.queue = []) := by
  have hrun : ((Served.new {} true ()).run? hastyRun).map Served.ended = some (some .closed) := by
    decide +kernel
  obtain ⟨s, hs, hended⟩ := Option.map_eq_some_iff.mp hrun
  exact ⟨s, hs, hended, lost_of_closed {} true () hs hended⟩

/-- The stream is one frame that is understood, its pong was taken, but it is not written. -/
theorem pong_lost_at_close :
    arrived hastyRun =
        (Framing.new .big 65536).frameBytes [0, 1, 0, 0, 0, 7, 0, 0, 0, 0, 0, 0, 0, 0] ∧
      ((serverProcessor .big true).decode [0, 1, 0, 0, 0, 7, 0, 0, 0, 0, 0, 0, 0, 0]).isOk ∧
      ∃ s, (Served.new {} true ()).run? hastyRun = some s ∧ s.ended = some .closed ∧
        s.bytesOf s.accepted = [0, 0, 0, 14, 0, 2, 0, 0, 0, 7, 0, 0, 0, 0, 0, 0, 0, 0] ∧
        s.written = [] := by
  have hrun : ((Served.new {} true ()).run? hastyRun).map (fun s =>
      (s.ended, s.bytesOf s.accepted, s.written)) =
        some (some .closed, [0, 0, 0, 14, 0, 2, 0, 0, 0, 7, 0, 0, 0, 0, 0, 0, 0, 0], []) := by
    decide +kernel
  obtain ⟨s, hs, hseen⟩ := Option.map_eq_some_iff.mp hrun
  simp only [Prod.mk.injEq] at hseen
  exact ⟨by decide, by decide, s, hs, hseen⟩

end Served

end Switchboard
