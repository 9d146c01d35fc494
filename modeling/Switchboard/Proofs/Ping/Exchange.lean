import Switchboard.Ping.Exchange
import Switchboard.Proofs.Ping.Talk
import Switchboard.Proofs.Server.Smooth

/-!
# Both sides of a ping

A pinger and a server with frame limits that suit the request carry it out to the end, in whatever
pieces and whenever the two streams arrive: each side only ever sees the beginning of what it
expects, every move brings the end closer, and until then some move is possible.
-/

namespace Switchboard

/-- Two sides that can carry out a request. No frame is longer than a length can describe. -/
structure PingRequest.Suits (r : PingRequest) (client server : NetworkConfig) : Prop where
  order : server.byteOrder = client.byteOrder
  client : r.longest ≤ client.maxFrameSize.toNat
  server : r.longest ≤ server.maxFrameSize.toNat
  described : r.longest ≤ Framing.largestLength

namespace Exchange

variable {x x' y z : Exchange} {m : Move} {moves : List Move}

/-! ## Runs -/

theorem run?_append {more : List Move} (hrun : x.run? moves = some y)
    (hmore : y.run? more = some z) : x.run? (moves ++ more) = some z := by
  rw [run?] at hrun hmore
  rw [run?, List.foldlM_append, hrun]
  exact hmore

theorem run?_singleton (hmove : x.move? m = some y) : x.run? [m] = some y := by
  rw [run?, List.foldlM_cons, hmove]
  rfl

/-- What holds at the start of a run, and is kept by every move, holds at its end. -/
theorem run_induction {motive : List Move → Exchange → Prop}
    (keep : ∀ {moves x m x'}, motive moves x → x.move? m = some x' → motive (moves ++ [m]) x')
    {before moves : List Move} (h : motive before x) (hrun : x.run? moves = some x') :
    motive (before ++ moves) x' := by
  induction moves generalizing x before with
  | nil =>
    cases hrun
    rw [List.append_nil]
    exact h
  | cons m rest ih =>
    rw [run?, List.foldlM_cons] at hrun
    obtain ⟨mid, hm, hrest⟩ := Option.bind_eq_some_iff.mp hrun
    rw [List.append_cons]
    exact ih (keep h hm) hrest

/-- The calls of the pinger's handler in a move. -/
def Move.calls (x : Exchange) : Move → List (Call Unit Unit)
  | .pinger => x.pinger.calls
  | _ => []

/-- The calls of the pinger's handler in a run. -/
def calls (x : Exchange) : List Move → List (Call Unit Unit)
  | [] => []
  | m :: rest =>
    m.calls x ++ match x.move? m with
      | some x => x.calls rest
      | none => []

theorem calls_append (hrun : x.run? moves = some y) (m : Move) :
    x.calls (moves ++ [m]) = x.calls moves ++ m.calls y := by
  induction moves generalizing x with
  | nil =>
    cases hrun
    simp only [List.nil_append, calls]
    cases y.move? m <;> simp
  | cons k rest ih =>
    rw [run?, List.foldlM_cons] at hrun
    obtain ⟨mid, hk, hrest⟩ := Option.bind_eq_some_iff.mp hrun
    simp only [List.cons_append, calls, hk, List.append_assoc, ih hrest]

/-! ## Moves -/

/-- What a move does. -/
inductive Step (x : Exchange) : Move → Exchange → Prop
  | arriveAtServer {length : Nat} {piece : Bytes} {served : Served Unit} (nonempty : piece ≠ [])
      (next : piece <+: x.pinger.written.drop x.atServer)
      (arrives : x.served.move? (.arrive piece) = some served) :
      Step x (.arriveAtServer length)
        { x with served := served, atServer := x.atServer + piece.length }
  | arriveAtPinger {length : Nat} {piece : Bytes} (nonempty : piece ≠ [])
      (next : piece <+: x.served.written.drop x.atPinger) :
      Step x (.arriveAtPinger length) { x with
        pinger := { x.pinger with inbound := x.pinger.inbound.arrive piece }
        atPinger := x.atPinger + piece.length }
  | pinger {pinger : Pinger} (steps : x.pinger.step? = some pinger) :
      Step x .pinger { x with pinger := pinger }
  | serverReceives {served : Served Unit} (receives : x.served.move? .receive = some served) :
      Step x .serverReceives { x with served := served }
  | serverWrites {served : Served Unit} (writes : x.served.move? (.write .complete) = some served) :
      Step x .serverWrites { x with served := served }

theorem piece?_eq_some {written piece : Bytes} {arrived length : Nat}
    (h : piece? written arrived length = some piece) :
    piece ≠ [] ∧ piece <+: written.drop arrived := by
  simp only [piece?] at h
  split at h
  · cases h
  · next hempty =>
    cases h
    exact ⟨fun hnil => hempty (List.isEmpty_iff.mpr hnil), List.take_prefix length _⟩

theorem step_of_move (h : x.move? m = some x') : Step x m x' := by
  cases m with
  | arriveAtServer length =>
    obtain ⟨piece, hpiece, h⟩ := Option.bind_eq_some_iff.mp h
    obtain ⟨served, hserved, h⟩ := Option.bind_eq_some_iff.mp h
    obtain ⟨hnonempty, hnext⟩ := piece?_eq_some hpiece
    cases h
    exact .arriveAtServer hnonempty hnext hserved
  | arriveAtPinger length =>
    obtain ⟨piece, hpiece, h⟩ := Option.bind_eq_some_iff.mp h
    obtain ⟨hnonempty, hnext⟩ := piece?_eq_some hpiece
    cases h
    exact .arriveAtPinger hnonempty hnext
  | pinger =>
    obtain ⟨pinger, hpinger, h⟩ := Option.bind_eq_some_iff.mp h
    cases h
    exact .pinger hpinger
  | serverReceives =>
    obtain ⟨served, hserved, h⟩ := Option.bind_eq_some_iff.mp h
    cases h
    exact .serverReceives hserved
  | serverWrites =>
    obtain ⟨served, hserved, h⟩ := Option.bind_eq_some_iff.mp h
    cases h
    exact .serverWrites hserved

/-- All that is left of a stream can arrive at once. -/
theorem piece?_of_lt {written : Bytes} {arrived : Nat} (h : arrived < written.length) :
    piece? written arrived written.length = some (written.drop arrived) := by
  have htake : (written.drop arrived).take written.length = written.drop arrived := by
    apply List.take_of_length_le
    rw [List.length_drop]
    exact Nat.sub_le _ _
  have hnonempty : (written.drop arrived).isEmpty = false := by
    rw [List.isEmpty_eq_false_iff, ← List.length_pos_iff, List.length_drop]
    omega
  simp only [piece?, htake, hnonempty]
  rfl

/-- What has arrived when a further piece has. -/
theorem take_of_piece {written piece : Bytes} {arrived : Nat} (h : piece <+: written.drop arrived) :
    written.take (arrived + piece.length) = written.take arrived ++ piece := by
  rw [List.take_add, ← List.prefix_iff_eq_take.mp h]

/-! ## What every move keeps -/

/-- Both sides of an exchange that does what its request asks for. -/
structure Proceeds (client server : NetworkConfig) (router : Bool) (r : PingRequest)
    (clock : Nat → UInt64) (moves : List Move) (x : Exchange) : Prop where
  run : (new client server router r clock).run? moves = some x
  talks : x.pinger.Talks client r clock
  serves : ∃ pieces,
    Served.Smooth server router () (r.requests client.byteOrder clock) pieces x.served ∧
      Served.arrived pieces = x.pinger.written.take x.atServer
  atServer_le : x.atServer ≤ x.pinger.written.length
  atPinger_le : x.atPinger ≤ x.served.written.length
  /-- What has arrived at the pinger are the replies that it has received, and what is ahead. -/
  arrived : x.served.written.take x.atPinger = x.pinger.framing.framesBytes
    ((r.replies client.byteOrder clock).take (x.pinger.stage.received r)) ++ x.pinger.ahead
  calls : (new client server router r clock).calls moves =
    (r.calls clock).take (x.pinger.stage.received r)

section

variable {client server : NetworkConfig} {router : Bool} {r : PingRequest} {clock : Nat → UInt64}

theorem Proceeds.requests_prefix (h : Proceeds client server router r clock moves x) :
    x.pinger.written <+: x.pinger.framing.framesBytes (r.requests client.byteOrder clock) := by
  rw [h.talks.written]
  exact Framing.framesBytes_take_prefix _ _ _

/-- A move that does not concern the pinger calls nobody. -/
theorem Proceeds.calls_of_idle (h : Proceeds client server router r clock moves x)
    (hidle : m.calls x = []) :
    (Exchange.new client server router r clock).calls (moves ++ [m]) =
      (r.calls clock).take (x.pinger.stage.received r) := by
  rw [calls_append h.run, hidle, List.append_nil, h.calls]

/-! ## Moves that keep it in any case -/

theorem Proceeds.arriveAtPinger (h : Proceeds client server router r clock moves x) {length : Nat}
    {piece : Bytes} (hnext : piece <+: x.served.written.drop x.atPinger)
    (hmove : x.move? (.arriveAtPinger length) = some { x with
      pinger := { x.pinger with inbound := x.pinger.inbound.arrive piece }
      atPinger := x.atPinger + piece.length }) :
    Proceeds client server router r clock (moves ++ [.arriveAtPinger length]) { x with
      pinger := { x.pinger with inbound := x.pinger.inbound.arrive piece }
      atPinger := x.atPinger + piece.length } := by
  have hcalls := h.calls_of_idle (m := .arriveAtPinger length) rfl
  refine ⟨run?_append h.run (run?_singleton hmove), h.talks.arrive piece, h.serves, h.atServer_le,
    ?_, ?_, hcalls⟩
  · have hle := hnext.length_le
    rw [List.length_drop] at hle
    have hbefore := h.atPinger_le
    show x.atPinger + piece.length ≤ x.served.written.length
    omega
  · show x.served.written.take (x.atPinger + piece.length) = _
    rw [take_of_piece hnext, h.arrived, List.append_assoc, ← Pinger.ahead_arrive]
    rfl

theorem Proceeds.serverReceives (h : Proceeds client server router r clock moves x)
    {served : Served Unit} (hreceives : x.served.move? .receive = some served)
    (hmove : x.move? .serverReceives = some { x with served := served }) :
    Proceeds client server router r clock (moves ++ [.serverReceives]) { x with served := served } ∧
      served.written = x.served.written ∧ x.served.taken ≤ served.taken := by
  obtain ⟨pieces, hsmooth, hpieces⟩ := h.serves
  have hserved : x.served.receive = served := by
    simpa [Served.move?, hsmooth.live] using hreceives
  obtain ⟨hnext, hwritten, htaken⟩ := hsmooth.receive
  rw [hserved] at hnext hwritten htaken
  have hcalls := h.calls_of_idle (m := .serverReceives) rfl
  refine ⟨⟨run?_append h.run (run?_singleton hmove), h.talks, ⟨_, hnext, ?_⟩, h.atServer_le, ?_, ?_,
    hcalls⟩, hwritten, ?_⟩
  · rw [Served.arrived_append, hpieces]
    exact List.append_nil _
  · show x.atPinger ≤ served.written.length
    rw [hwritten]
    exact h.atPinger_le
  · show served.written.take x.atPinger = _
    rw [hwritten]
    exact h.arrived
  · rcases htaken with htaken | ⟨htaken, -⟩ <;> omega

theorem Proceeds.serverWrites (h : Proceeds client server router r clock moves x)
    {served : Served Unit} (hwrites : x.served.move? (.write .complete) = some served)
    (hmove : x.move? .serverWrites = some { x with served := served }) :
    Proceeds client server router r clock (moves ++ [.serverWrites]) { x with served := served } ∧
      served.taken = x.served.taken ∧ x.served.written.length < served.written.length := by
  obtain ⟨pieces, hsmooth, hpieces⟩ := h.serves
  obtain ⟨hnext, htaken, bs, hbs, hwritten⟩ := hsmooth.write hwrites
  have hlonger : x.served.written.length < served.written.length := by
    have hpos := List.length_pos_iff.mpr hbs
    rw [hwritten, List.length_append]
    omega
  have hcalls := h.calls_of_idle (m := .serverWrites) rfl
  refine ⟨⟨run?_append h.run (run?_singleton hmove), h.talks, ⟨_, hnext, ?_⟩, h.atServer_le, ?_, ?_,
    hcalls⟩, htaken, hlonger⟩
  · rw [Served.arrived_append, hpieces]
    exact List.append_nil _
  · exact Nat.le_trans h.atPinger_le (Nat.le_of_lt hlonger)
  · show served.written.take x.atPinger = _
    rw [hwritten, List.take_append_of_le_length h.atPinger_le]
    exact h.arrived

/-! ## Sides that suit the request -/

variable (hsuits : r.Suits client server)
include hsuits

theorem Proceeds.framesBytes_eq (h : Proceeds client server router r clock moves x) :
    x.served.connection.splitter.framing.framesBytes = x.pinger.framing.framesBytes := by
  obtain ⟨pieces, hsmooth, -⟩ := h.serves
  apply Framing.framesBytes_congr
  rw [hsmooth.framing_eq, h.talks.configured]
  exact hsuits.order

theorem Proceeds.fits (h : Proceeds client server router r clock moves x) :
    r.longest ≤ x.pinger.framing.limit := by
  rw [h.talks.configured]
  exact Nat.le_min.mpr ⟨hsuits.client, hsuits.described⟩

/-- What the server wrote and will write for the requests that it has received are their
replies. -/
theorem Proceeds.answered (h : Proceeds client server router r clock moves x) :
    x.served.written ++ x.served.bytesOf x.served.mailbox.queue = x.pinger.framing.framesBytes
      ((r.replies client.byteOrder clock).take (x.served.taken - r.notice.toList.length)) := by
  obtain ⟨pieces, hsmooth, -⟩ := h.serves
  rw [hsmooth.answered, hsuits.order, PingRequest.answer_requests, h.framesBytes_eq hsuits]

theorem Proceeds.submitted (h : Proceeds client server router r clock moves x) :
    x.served.submissions = if router then r.announcements.take x.served.taken else [] := by
  obtain ⟨pieces, hsmooth, -⟩ := h.serves
  rw [hsmooth.submitted, hsuits.order, PingRequest.submissions_requests]

theorem Proceeds.written_prefix (h : Proceeds client server router r clock moves x) :
    x.served.written <+: x.pinger.framing.framesBytes (r.replies client.byteOrder clock) := by
  have hfirst : x.served.written <+: x.pinger.framing.framesBytes
      ((r.replies client.byteOrder clock).take (x.served.taken - r.notice.toList.length)) :=
    ⟨_, h.answered hsuits⟩
  exact hfirst.trans (Framing.framesBytes_take_prefix _ _ _)

/-- What is ahead of the pinger is the beginning of the replies that it has not received. -/
theorem Proceeds.expected (h : Proceeds client server router r clock moves x) :
    x.pinger.ahead <+: x.pinger.framing.framesBytes
      ((r.replies client.byteOrder clock).drop (x.pinger.stage.received r)) := by
  have harrived : x.served.written.take x.atPinger <+:
      x.pinger.framing.framesBytes (r.replies client.byteOrder clock) :=
    (List.take_prefix _ _).trans (h.written_prefix hsuits)
  rw [h.arrived] at harrived
  nth_rewrite 2 [← List.take_append_drop (x.pinger.stage.received r)
    (r.replies client.byteOrder clock)] at harrived
  rw [Framing.framesBytes_append] at harrived
  exact (List.prefix_append_right_inj _).mp harrived

theorem Proceeds.new :
    Proceeds client server router r clock [] (new client server router r clock) where
  run := rfl
  talks := Pinger.talks_new client r clock
  serves := by
    refine ⟨[], Served.Smooth.start server router () ?_, rfl⟩
    intro frame hframe
    refine Nat.le_trans (PingRequest.length_requests_le frame hframe) ?_
    exact Nat.le_min.mpr ⟨hsuits.server, hsuits.described⟩
  atServer_le := Nat.le_refl 0
  atPinger_le := Nat.le_refl 0
  arrived := rfl
  calls := rfl

/-! ## Moves keep it -/

theorem Proceeds.arriveAtServer (h : Proceeds client server router r clock moves x) {length : Nat}
    {piece : Bytes} {served : Served Unit} (hnext : piece <+: x.pinger.written.drop x.atServer)
    (harrives : x.served.move? (.arrive piece) = some served)
    (hmove : x.move? (.arriveAtServer length) =
      some { x with served := served, atServer := x.atServer + piece.length }) :
    Proceeds client server router r clock (moves ++ [.arriveAtServer length])
        { x with served := served, atServer := x.atServer + piece.length } ∧
      served.written = x.served.written ∧ served.taken = x.served.taken := by
  obtain ⟨pieces, hsmooth, hpieces⟩ := h.serves
  have hserved : { x.served with inbound := x.served.inbound.arrive piece } = served := by
    simpa [Served.move?, hsmooth.opened] using harrives
  have hcalls := h.calls_of_idle (m := .arriveAtServer length) rfl
  have htake := take_of_piece hnext
  have hall : Served.arrived pieces ++ piece <+: x.pinger.written := by
    rw [hpieces, ← htake]
    exact List.take_prefix _ _
  subst hserved
  refine ⟨⟨run?_append h.run (run?_singleton hmove), h.talks, ?_, ?_, h.atPinger_le, h.arrived,
    hcalls⟩, rfl, rfl⟩
  · refine ⟨pieces ++ [.arrive piece], hsmooth.arrive ?_, ?_⟩
    · rw [h.framesBytes_eq hsuits]
      exact hall.trans h.requests_prefix
    · rw [Served.arrived_append, hpieces]
      exact htake.symm
  · have hle := hnext.length_le
    rw [List.length_drop] at hle
    have hbefore := h.atServer_le
    show x.atServer + piece.length ≤ x.pinger.written.length
    omega

theorem Proceeds.pinger (h : Proceeds client server router r clock moves x) {p : Pinger}
    (hstep : x.pinger.step? = some p) (hmove : x.move? .pinger = some { x with pinger := p }) :
    Proceeds client server router r clock (moves ++ [.pinger]) { x with pinger := p } ∧
      p.stage.passed r = x.pinger.stage.passed r + 1 := by
  have hadvances := h.talks.advances (h.fits hsuits) (h.expected hsuits) hstep
  have hframing : p.framing = x.pinger.framing := by
    rw [hadvances.talks.configured, h.talks.configured]
  obtain ⟨pieces, hsmooth, hpieces⟩ := h.serves
  obtain ⟨more, hmore⟩ := hadvances.written
  refine ⟨⟨run?_append h.run (run?_singleton hmove), hadvances.talks, ⟨pieces, hsmooth, ?_⟩, ?_,
    h.atPinger_le, ?_, ?_⟩, hadvances.passed⟩
  · show _ = p.written.take x.atServer
    rw [hpieces, ← hmore, List.take_append_of_le_length h.atServer_le]
  · exact Nat.le_trans h.atServer_le hadvances.written.length_le
  · show x.served.written.take x.atPinger = _
    rw [h.arrived, hadvances.ahead, hframing]
  · rw [calls_append h.run, h.calls]
    exact hadvances.calls.symm

end

end Exchange

end Switchboard
