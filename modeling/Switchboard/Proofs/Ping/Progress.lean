import Switchboard.Proofs.Ping.Exchange
import Switchboard.Program

/-!
# Pinging succeeds

Every move of an exchange but a look in vain gets something done, and there is only so much to do;
until the pinger is over, some move gets something done. So every request is fulfilled if frames may
be long enough, however the streams are cut and whichever side goes on first.
-/

namespace Switchboard

namespace PingStage

theorem Regular.passed_le {r : PingRequest} {stage : PingStage} (h : stage.Regular r) :
    stage.passed r ≤ 2 * r.count.toNat + 4 := by
  cases h <;> simp only [passed] <;> omega

theorem Regular.sent_le {r : PingRequest} {stage : PingStage} (h : stage.Regular r) :
    stage.sent r ≤ r.notice.toList.length + r.count.toNat + 1 := by
  cases h <;> simp only [sent] <;> omega

end PingStage

namespace Exchange

variable {x x' : Exchange} {m : Move} {moves : List Move} {client server : NetworkConfig}
  {router : Bool} {r : PingRequest} {clock : Nat → UInt64}

/-- How much has been done. -/
def done (r : PingRequest) (x : Exchange) : Nat :=
  x.pinger.stage.passed r + x.served.taken + x.atServer + x.served.written.length + x.atPinger

/-- Whether a move gets something done in any case. A server may look for a frame in vain. -/
def Move.works : Move → Bool
  | .serverReceives => false
  | _ => true

section

variable (hsuits : r.Suits client server)
include hsuits

/-- There is only so much to do. -/
theorem Proceeds.done_le (h : Proceeds client server router r clock moves x) :
    x.done r ≤ r.effort client.byteOrder clock := by
  obtain ⟨pieces, hsmooth, -⟩ := h.serves
  have hpassed := h.talks.regular.passed_le
  have htaken := hsmooth.taken_le
  have hatServer := Nat.le_trans h.atServer_le h.requests_prefix.length_le
  have hwritten := (h.written_prefix hsuits).length_le
  have hatPinger := h.atPinger_le
  rw [Framing.length_framesBytes] at hatServer hwritten
  rw [done, PingRequest.effort]
  omega

/-- A move goes on with the request. -/
theorem Proceeds.step (h : Proceeds client server router r clock moves x)
    (hmove : x.move? m = some x') : Proceeds client server router r clock (moves ++ [m]) x' ∧
      x.done r + (if m.works then 1 else 0) ≤ x'.done r := by
  cases step_of_move hmove with
  | arriveAtServer nonempty next arrives =>
    have hpos := List.length_pos_iff.mpr nonempty
    obtain ⟨hnext, hwritten, htaken⟩ := h.arriveAtServer hsuits next arrives hmove
    refine ⟨hnext, ?_⟩
    simp only [done, Move.works, hwritten, htaken, if_true]
    omega
  | arriveAtPinger nonempty next =>
    have hpos := List.length_pos_iff.mpr nonempty
    refine ⟨h.arriveAtPinger next hmove, ?_⟩
    simp only [done, Move.works, if_true]
    omega
  | pinger steps =>
    obtain ⟨hnext, hpassed⟩ := h.pinger hsuits steps hmove
    refine ⟨hnext, ?_⟩
    simp only [done, Move.works, hpassed, if_true]
    omega
  | serverReceives receives =>
    obtain ⟨hnext, hwritten, htaken⟩ := h.serverReceives receives hmove
    refine ⟨hnext, ?_⟩
    simp only [done, Move.works, hwritten, Bool.false_eq_true, if_false]
    omega
  | serverWrites writes =>
    obtain ⟨hnext, htaken, hlonger⟩ := h.serverWrites writes hmove
    refine ⟨hnext, ?_⟩
    simp only [done, Move.works, htaken, if_true]
    omega

/-- Moves that work get done what there is to do. -/
theorem proceeds_of_run (hrun : (Exchange.new client server router r clock).run? moves = some x) :
    Proceeds client server router r clock moves x ∧ moves.countP Move.works ≤ x.done r := by
  refine run_induction (motive := fun moves x =>
    Proceeds client server router r clock moves x ∧ moves.countP Move.works ≤ x.done r) ?_
    ⟨Proceeds.new hsuits, Nat.zero_le _⟩ hrun
  rintro moves x m x' ⟨h, hcount⟩ hmove
  obtain ⟨hnext, hdone⟩ := h.step hsuits hmove
  refine ⟨hnext, ?_⟩
  rw [List.countP_append, List.countP_singleton]
  omega

/-! ## Until the end -/

/-- If the server has nothing to write and nothing of it is on its way, then it has not received the
request whose reply the pinger waits for. -/
theorem Proceeds.taken_lt (h : Proceeds client server router r clock moves x)
    (hasked : x.pinger.stage.sent r =
      r.notice.toList.length + x.pinger.stage.received r + 1)
    (hincomplete : ∀ frame,
      (r.replies client.byteOrder clock)[x.pinger.stage.received r]? = some frame →
        ¬ x.pinger.framing.frameBytes frame <+: x.pinger.ahead)
    (hall : x.served.written.length ≤ x.atPinger) (hqueue : x.served.mailbox.queue = []) :
    x.served.taken < x.pinger.stage.sent r := by
  obtain ⟨pieces, hsmooth, -⟩ := h.serves
  have hanswered := h.answered hsuits
  have hnothing : x.served.bytesOf [] = [] := rfl
  rw [hqueue, hnothing, List.append_nil] at hanswered
  have harrived := h.arrived
  rw [List.take_of_length_le hall] at harrived
  by_contra hge
  have htaken := hsmooth.taken_le
  rw [PingRequest.length_requests] at htaken
  have hreceived : x.pinger.stage.received r < (r.replies client.byteOrder clock).length := by
    rw [PingRequest.length_replies]
    omega
  apply hincomplete _ (List.getElem?_eq_getElem hreceived)
  apply Framing.frameBytes_prefix_of_take (List.getElem?_eq_getElem hreceived)
    (n := x.served.taken - r.notice.toList.length) (by omega)
  rw [← hanswered, ← harrived]

/-- If all that the pinger wrote has arrived, the server receives the next request. -/
theorem Proceeds.taken_receive (h : Proceeds client server router r clock moves x)
    (hlt : x.served.taken < x.pinger.stage.sent r)
    (hall : x.pinger.written.length ≤ x.atServer) :
    x.served.receive.taken = x.served.taken + 1 := by
  obtain ⟨pieces, hsmooth, hpieces⟩ := h.serves
  have hsent := h.talks.regular.sent_le
  have hnext : x.served.taken < (r.requests client.byteOrder clock).length := by
    rw [PingRequest.length_requests]
    omega
  rw [List.take_of_length_le hall, h.talks.written, ← h.framesBytes_eq hsuits,
    hsmooth.arrived_eq] at hpieces
  have hprefix := List.prefix_refl (x.served.connection.splitter.framing.framesBytes
    ((r.requests client.byteOrder clock).take (x.pinger.stage.sent r)))
  nth_rewrite 2 [← hpieces] at hprefix
  have hcomplete :=
    Framing.frameBytes_prefix_of_take (List.getElem?_eq_getElem hnext) hlt hprefix
  obtain ⟨-, -, htaken | ⟨-, hincomplete⟩⟩ := hsmooth.receive
  · exact htaken
  · exact absurd hcomplete (hincomplete _ (List.getElem?_eq_getElem hnext))

/-- While the pinger is not over, some move gets something done. -/
theorem Proceeds.progress (h : Proceeds client server router r clock moves x)
    (hstage : x.pinger.stage ≠ .over none) :
    ∃ m x', x.move? m = some x' ∧ x.done r < x'.done r := by
  have hworks {m : Move} {x' : Exchange} (hm : m.works = true) (hmove : x.move? m = some x') :
      ∃ m x', x.move? m = some x' ∧ x.done r < x'.done r := by
    have hdone := (h.step hsuits hmove).2
    rw [if_pos hm] at hdone
    exact ⟨m, x', hmove, hdone⟩
  cases h.talks.goes (h.fits hsuits) (h.expected hsuits) with
  | @advance p step advances =>
    have hmove : x.move? .pinger = some { x with pinger := p } := by simp [move?, step]
    exact hworks rfl hmove
  | wait step asked incomplete =>
    obtain ⟨pieces, hsmooth, hpieces⟩ := h.serves
    by_cases hatPinger : x.atPinger < x.served.written.length
    · have hpiece := piece?_of_lt hatPinger
      exact hworks (m := .arriveAtPinger x.served.written.length) rfl (by simp [move?, hpiece]; rfl)
    by_cases hqueue : x.served.mailbox.queue = []
    · have hlt := h.taken_lt hsuits asked incomplete (Nat.le_of_not_lt hatPinger) hqueue
      by_cases hatServer : x.atServer < x.pinger.written.length
      · have hpiece := piece?_of_lt hatServer
        exact hworks (m := .arriveAtServer x.pinger.written.length) rfl
          (by simp [move?, hpiece, Served.move?, hsmooth.opened]; rfl)
      · have htaken := h.taken_receive hsuits hlt (Nat.le_of_not_lt hatServer)
        obtain ⟨-, hwritten, -⟩ := hsmooth.receive
        have hmove : x.move? .serverReceives = some { x with served := x.served.receive } := by
          simp [move?, Served.move?, hsmooth.live]
        refine ⟨_, _, hmove, ?_⟩
        simp only [done, htaken, hwritten]
        omega
    · obtain ⟨served, hwrites⟩ := hsmooth.exists_write hqueue
      have hmove : x.move? .serverWrites = some { x with served := served } := by
        simp [move?, hwrites]
      exact hworks rfl hmove
  | ended done => exact absurd done hstage

/-- An exchange can be brought to its end. -/
theorem Proceeds.finishes (h : Proceeds client server router r clock moves x) :
    ∃ more y, x.run? more = some y ∧ y.pinger.stage = .over none := by
  -- What is left to do is less after every move that gets something done.
  induction hleft : r.effort client.byteOrder clock - x.done r using Nat.strong_induction_on
    generalizing x moves with
  | _ left ih =>
    by_cases hstage : x.pinger.stage = .over none
    · exact ⟨[], x, rfl, hstage⟩
    · obtain ⟨m, x', hmove, hdone⟩ := h.progress hsuits hstage
      obtain ⟨hnext, -⟩ := h.step hsuits hmove
      have hle := hnext.done_le hsuits
      obtain ⟨more, y, hrun, hover⟩ := ih _ (by omega) hnext rfl
      exact ⟨[m] ++ more, y, run?_append (run?_singleton hmove) hrun, hover⟩

/-- At the end the server has received the notice, if there is one. -/
theorem Proceeds.taken_of_over (h : Proceeds client server router r clock moves x)
    (hover : x.pinger.stage = .over none) :
    r.notice.toList.length ≤ x.served.taken := by
  have hwritten : x.served.written.take x.atPinger <+: x.pinger.framing.framesBytes
      ((r.replies client.byteOrder clock).take (x.served.taken - r.notice.toList.length)) :=
    (List.take_prefix _ _).trans ⟨_, h.answered hsuits⟩
  rw [h.arrived, hover] at hwritten
  by_contra hlt
  have hnone : x.served.taken - r.notice.toList.length = 0 := by omega
  rw [hnone, ← List.append_nil (x.pinger.framing.framesBytes (List.take 0 _))] at hwritten
  have hfirst : 0 < (r.replies client.byteOrder clock).length := by
    rw [PingRequest.length_replies]
    exact Nat.succ_pos _
  have hempty := Framing.frameBytes_prefix_of_take (List.getElem?_eq_getElem hfirst)
    (Nat.succ_pos r.count.toNat) ((List.prefix_append _ _).trans hwritten)
  have hlength := hempty.length_le
  rw [Framing.length_frameBytes, List.length_nil] at hlength
  omega

end

/-! ## Every run -/

/-- A request that was fulfilled. -/
structure Fulfilled (client server : NetworkConfig) (router : Bool) (r : PingRequest)
    (clock : Nat → UInt64) (moves : List Move) (x : Exchange) : Prop where
  sent : x.pinger.written =
    (Framing.new client.byteOrder client.maxFrameSize.toNat).framesBytes
      (r.requests client.byteOrder clock)
  called : (new client server router r clock).calls moves = r.calls clock
  routed : x.served.submissions = if router then r.announcements else []
  succeeded : Program.pinged x.pinger = Program.succeed (CommandLine.unlines (r.lines clock))

/-- What a run comes to. -/
structure Performs (client server : NetworkConfig) (router : Bool) (r : PingRequest)
    (clock : Nat → UInt64) (moves : List Move) (x : Exchange) : Prop where
  /-- The pinger does not fail. -/
  unfailing : ∀ e, x.pinger.stage ≠ .over (some e)
  called : (new client server router r clock).calls moves <+: r.calls clock
  printed : x.pinger.printed <+: r.lines clock
  routed : x.served.submissions <+: if router then r.announcements else []
  /-- Once the pinger is over, all has been done. -/
  fulfilled : x.pinger.stage = .over none → Fulfilled client server router r clock moves x
  /-- Only looks in vain can go on forever. -/
  bounded : moves.countP Move.works ≤ r.effort client.byteOrder clock
  /-- Wherever the run stands, it can be brought to its end. -/
  finishes : ∃ more y, x.run? more = some y ∧ y.pinger.stage = .over none

theorem Proceeds.fulfilled (hsuits : r.Suits client server)
    (h : Proceeds client server router r clock moves x) (hover : x.pinger.stage = .over none) :
    Fulfilled client server router r clock moves x where
  sent := by
    have hall : (r.requests client.byteOrder clock).length ≤ PingStage.sent r (.over none) := by
      rw [PingRequest.length_requests]
      exact Nat.le_refl _
    rw [h.talks.written, h.talks.configured, hover, List.take_of_length_le hall]
  called := by
    have hall : (r.calls clock).length ≤ PingStage.received r (.over none) := by
      rw [PingRequest.length_calls]
      exact Nat.le_succ _
    rw [h.calls, hover, List.take_of_length_le hall]
  routed := by
    have hall : r.announcements.length ≤ x.served.taken := by
      rw [PingRequest.announcements, List.length_map]
      exact h.taken_of_over hsuits hover
    rw [h.submitted hsuits, List.take_of_length_le hall]
  succeeded := by
    have hall : (r.lines clock).length ≤ PingStage.received r (.over none) := by
      rw [PingRequest.length_lines]
      exact Nat.le_refl _
    rw [Program.pinged, hover, h.talks.printed, hover, List.take_of_length_le hall]

/-- In whatever pieces the two streams arrive and whichever side goes on first, a ping does what its
request asks for. -/
theorem performs_of_run (hsuits : r.Suits client server)
    (hrun : (new client server router r clock).run? moves = some x) :
    Performs client server router r clock moves x := by
  obtain ⟨h, hcount⟩ := proceeds_of_run hsuits hrun
  constructor
  case unfailing =>
    intro e hover
    have hregular := h.talks.regular
    rw [hover] at hregular
    cases hregular
  case called =>
    rw [h.calls]
    exact List.take_prefix _ _
  case printed =>
    rw [h.talks.printed]
    exact List.take_prefix _ _
  case routed =>
    rw [h.submitted hsuits]
    split
    · exact List.take_prefix _ _
    · exact List.prefix_refl _
  case fulfilled => exact h.fulfilled hsuits
  case bounded => exact Nat.le_trans hcount (h.done_le hsuits)
  case finishes => exact h.finishes hsuits

theorem performs_tightly :
    let request : PingRequest := ⟨3, some "hello", "node"⟩
    let client : NetworkConfig := { byteOrder := .little, maxFrameSize := 18 }
    let server : NetworkConfig := { byteOrder := .little }
    ∃ moves x, (new client server true request fun n => UInt64.ofNat (10 * n)).run? moves = some x ∧
      x.pinger.stage = .over none ∧
      Performs client server true request (fun n => UInt64.ofNat (10 * n)) moves x := by
  intro request client server
  have hsuits : request.Suits client server := by
    refine ⟨rfl, ?_, ?_, ?_⟩ <;> decide
  have hstart : (new client server true request fun n => UInt64.ofNat (10 * n)).run? [] = some _ :=
    rfl
  obtain ⟨moves, x, hrun, hover⟩ := (performs_of_run hsuits hstart).finishes
  exact ⟨moves, x, hrun, hover, performs_of_run hsuits hrun⟩

/-- Without the bound on the length of a frame the name may be too long for every configuration. -/
theorem longName_fails (config : NetworkConfig) (clock : Nat → UInt64) {name : String}
    (h : (Framing.new config.byteOrder config.maxFrameSize.toNat).limit <
      (Utf8.ofString name).length + 10) :
    ∃ x, (new config config true ⟨0, none, name⟩ clock).run? [.pinger, .pinger, .pinger] = some x ∧
      x.pinger.stage = .over (some (.connection (.frameTooLarge ((Utf8.ofString name).length + 10)
        (Framing.new config.byteOrder config.maxFrameSize.toNat).limit))) := by
  let p : Pinger := { Pinger.new config ⟨0, none, name⟩ clock with stage := .echo }
  have hencode : p.client.processor.encode (Builtin.echoOf (Utf8.ofString name)) = .ok _ :=
    Pinger.encode_processor config.byteOrder PingerEntry.echo_mem
      (Builtin.echoOf (Utf8.ofString name)).value
  refine ⟨{ new config config true ⟨0, none, name⟩ clock with
    pinger := p.sendThen (Builtin.echoOf (Utf8.ofString name)) .echoReply }, rfl, ?_⟩
  have hlength := PingRequest.length_echoFrame ⟨0, none, name⟩ config.byteOrder
  rw [PingRequest.echoFrame, Frame.length_toBytes] at hlength
  rw [← hlength] at h ⊢
  exact Pinger.stage_sendThen_of_gt hencode h .echoReply

theorem boundlessName_fails :
    let request : PingRequest := ⟨0, none, String.ofList (List.replicate 4294967286 'a')⟩
    let config : NetworkConfig := { maxFrameSize := 18446744073709551615 }
    request.longest ≤ config.maxFrameSize.toNat ∧
      ∃ x, (new config config true request fun _ => 0).run? [.pinger, .pinger, .pinger] = some x ∧
        x.pinger.stage = .over (some (.connection (.frameTooLarge 4294967296 4294967295))) := by
  have hname (n : Nat) : (Utf8.ofString (String.ofList (List.replicate n 'a'))).length = n := by
    have hchar : (Utf8.encodeChar 'a').length = 1 := rfl
    rw [Utf8.ofString, String.toList_ofList, Utf8.encode, List.length_flatMap, List.map_replicate,
      hchar, List.sum_replicate_nat]
    exact Nat.mul_one n
  generalize hn : (4294967286 : Nat) = n
  intro request config
  constructor
  · show max 14 (max ((Utf8.ofString (String.ofList (List.replicate n 'a'))).length + 10) 0) ≤ _
    rw [hname, ← hn]
    decide
  · have hlimit : (Framing.new config.byteOrder config.maxFrameSize.toNat).limit = 4294967295 := rfl
    have hlength : n + 10 = 4294967296 := by rw [← hn]
    have hlarge : (Framing.new config.byteOrder config.maxFrameSize.toNat).limit <
        (Utf8.ofString (String.ofList (List.replicate n 'a'))).length + 10 := by
      rw [hname, hlimit, hlength]
      decide
    have hfails := longName_fails config (fun _ => 0) hlarge
    rw [hname, hlimit, hlength] at hfails
    exact hfails

end Exchange

end Switchboard
