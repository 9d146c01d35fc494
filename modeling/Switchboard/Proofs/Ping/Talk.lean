import Switchboard.Proofs.Ping.Plan

/-!
# A pinger that gets its replies

As long as what arrives is the beginning of the replies that it waits for, a pinger does what its
request asks for, step by step, and never fails.
-/

namespace Switchboard

/-! ## Stages -/

namespace PingStage

section

variable (r : PingRequest)

/-- The stages of a pinger that does not fail. -/
inductive Regular : PingStage → Prop
  | notice : Regular .notice
  | ping {seq : Nat} (h : seq ≤ r.count.toNat) : Regular (.ping seq)
  | pong {seq : Nat} (h : seq < r.count.toNat) : Regular (.pong seq)
  | echo : Regular .echo
  | echoReply : Regular .echoReply
  | ended : Regular (.over none)

/-- How many requests have been sent. -/
def sent : PingStage → Nat
  | .notice => 0
  | .ping seq => r.notice.toList.length + seq
  | .pong seq => r.notice.toList.length + seq + 1
  | .echo => r.notice.toList.length + r.count.toNat
  | .echoReply | .over _ => r.notice.toList.length + r.count.toNat + 1

/-- How many replies have been received. -/
def received : PingStage → Nat
  | .notice => 0
  | .ping seq | .pong seq => seq
  | .echo | .echoReply => r.count.toNat
  | .over _ => r.count.toNat + 1

/-- How often the clock has been looked at. -/
def looks : PingStage → Nat
  | .notice => 0
  | .ping seq => 2 * seq
  | .pong seq => 2 * seq + 1
  | .echo | .echoReply | .over _ => 2 * r.count.toNat

/-- How many steps have been made. -/
def passed : PingStage → Nat
  | .notice => 0
  | .ping seq => 2 * seq + 1
  | .pong seq => 2 * seq + 2
  | .echo => 2 * r.count.toNat + 2
  | .echoReply => 2 * r.count.toNat + 3
  | .over _ => 2 * r.count.toNat + 4

end

end PingStage

namespace Pinger

/-- The calls of the handler in the next step. -/
def calls (p : Pinger) : List (Call Unit Unit) :=
  match p.stage, (p.client.receive p.inbound).1 with
  | .pong _, .decoded d => (p.client.processor.route d ()).toOption.getD []
  | _, _ => []

/-- What has arrived and has not been received. -/
def ahead (p : Pinger) : Bytes :=
  p.client.connection.ahead p.inbound

/-- How the frames of a pinger are written. -/
def framing (p : Pinger) : Framing :=
  p.client.connection.splitter.framing

/-- A pinger that has done what its request asks for up to its stage. -/
structure Talks (config : NetworkConfig) (r : PingRequest) (clock : Nat → UInt64) (p : Pinger) :
    Prop where
  asks : p.request = r
  ticks : p.clock = clock
  processor : p.client.processor = Pinger.processor config.byteOrder
  configured : p.framing = Framing.new config.byteOrder config.maxFrameSize.toNat
  sound : p.client.connection.splitter.Sound
  opened : p.inbound.closed = false
  regular : p.stage.Regular r
  written : p.written =
    p.framing.framesBytes ((r.requests config.byteOrder clock).take (p.stage.sent r))
  printed : p.printed = (r.lines clock).take (p.stage.received r)
  looks : p.looks = p.stage.looks r

/-- What a step does for a pinger that talks. -/
structure Advances (config : NetworkConfig) (r : PingRequest) (clock : Nat → UInt64)
    (p p' : Pinger) : Prop where
  talks : Talks config r clock p'
  written : p.written <+: p'.written
  /-- Replies that are received are no longer ahead. -/
  ahead : p.framing.framesBytes ((r.replies config.byteOrder clock).take (p.stage.received r)) ++
      p.ahead =
    p.framing.framesBytes ((r.replies config.byteOrder clock).take (p'.stage.received r)) ++
      p'.ahead
  calls : (r.calls clock).take (p'.stage.received r) =
    (r.calls clock).take (p.stage.received r) ++ p.calls
  passed : p'.stage.passed r = p.stage.passed r + 1

/-- What a pinger that talks can do. -/
inductive Goes (config : NetworkConfig) (r : PingRequest) (clock : Nat → UInt64) (p : Pinger) : Prop
  | advance {p' : Pinger} (step : p.step? = some p') (advances : Advances config r clock p p')
  /-- The reply to the last request is not complete. -/
  | wait (step : p.step? = none)
      (asked : p.stage.sent r = r.notice.toList.length + p.stage.received r + 1)
      (incomplete : ∀ frame, (r.replies config.byteOrder clock)[p.stage.received r]? = some frame →
        ¬ p.framing.frameBytes frame <+: p.ahead)
  | ended (done : p.stage = .over none)

variable {config : NetworkConfig} {r : PingRequest} {clock : Nat → UInt64} {p : Pinger}

theorem Goes.of_incomplete {frame : Bytes} (hstep : p.step? = none)
    (hasked : p.stage.sent r = r.notice.toList.length + p.stage.received r + 1)
    (hnext : (r.replies config.byteOrder clock)[p.stage.received r]? = some frame)
    (hincomplete : ¬ p.framing.frameBytes frame <+: p.ahead) : Goes config r clock p := by
  refine .wait hstep hasked ?_
  intro reply hreply
  cases hnext.symm.trans hreply
  exact hincomplete

/-! ## Steps -/

theorem sendThen_of_encode {m : Message} {frame : Frame}
    (hencode : p.client.processor.encode m = .ok frame) (hle : frame.length ≤ p.framing.limit)
    (next : PingStage) (n : Nat) :
    ∃ c : Connection, c.splitter = p.client.connection.splitter ∧
      c.readBuffer = p.client.connection.readBuffer ∧
      { p with looks := n }.sendThen m next = { p with
        client := { p.client with connection := c }
        written := p.written ++ p.framing.frameBytes frame.toBytes
        looks := n
        stage := next } := by
  have hlimit : ¬ p.client.connection.splitter.framing.limit < frame.length := Nat.not_lt.mpr hle
  refine ⟨Connection.countSent { p.client.connection with
    writeBuffer := p.framing.frameBytes frame.toBytes }, rfl, rfl, ?_⟩
  simp only [sendThen, Client.send, hencode, Connection.send, Connection.prepare_eq, if_neg hlimit,
    framing]

theorem stage_sendThen_of_gt {m : Message} {frame : Frame}
    (hencode : p.client.processor.encode m = .ok frame) (hgt : p.framing.limit < frame.length)
    (next : PingStage) : (p.sendThen m next).stage =
      .over (some (.connection (.frameTooLarge frame.length p.framing.limit))) := by
  have hlimit : p.client.connection.splitter.framing.limit < frame.length := hgt
  simp only [sendThen, Client.send, hencode, Connection.send, Connection.prepare_eq, if_pos hlimit,
    framing, stop]

/-- Going on without sending. -/
theorem Talks.skip (h : Talks config r clock p) {next : PingStage}
    (hsent : next.sent r = p.stage.sent r) (hreceived : next.received r = p.stage.received r)
    (hlooks : next.looks r = p.stage.looks r) (hregular : next.Regular r)
    (hpassed : next.passed r = p.stage.passed r + 1) (hcalls : p.calls = []) :
    Advances config r clock p { p with stage := next } where
  talks := by
    refine ⟨h.asks, h.ticks, h.processor, h.configured, h.sound, h.opened, hregular, ?_, ?_, ?_⟩
    · exact h.written.trans (by rw [hsent]; rfl)
    · exact h.printed.trans (by rw [hreceived])
    · exact h.looks.trans hlooks.symm
  written := List.prefix_refl _
  ahead := by
    rw [hreceived]
    rfl
  calls := by rw [hreceived, hcalls, List.append_nil]
  passed := hpassed

/-- Sending the next request. -/
theorem Talks.send (h : Talks config r clock p) (hfits : r.longest ≤ p.framing.limit)
    {m : Message} {frame : Frame} {next : PingStage} {n : Nat}
    (hencode : (Pinger.processor config.byteOrder).encode m = .ok frame)
    (hnext : (r.requests config.byteOrder clock)[p.stage.sent r]? = some frame.toBytes)
    (hsent : next.sent r = p.stage.sent r + 1) (hreceived : next.received r = p.stage.received r)
    (hlooks : next.looks r = n) (hregular : next.Regular r)
    (hpassed : next.passed r = p.stage.passed r + 1) (hcalls : p.calls = []) :
    Advances config r clock p ({ p with looks := n }.sendThen m next) := by
  have hle : frame.length ≤ p.framing.limit := by
    rw [← Frame.length_toBytes]
    exact Nat.le_trans (PingRequest.length_requests_le _ (List.mem_of_getElem? hnext)) hfits
  rw [← h.processor] at hencode
  obtain ⟨c, hsplitter, hbuffer, hsend⟩ :=
    sendThen_of_encode hencode hle next n
  have hahead : c.ahead p.inbound = p.ahead := by
    rw [ahead, Connection.ahead, Connection.ahead, hsplitter, hbuffer]
  have hframing : c.splitter.framing = p.framing := by
    rw [framing, hsplitter]
  rw [hsend]
  refine ⟨⟨h.asks, h.ticks, h.processor, hframing.trans h.configured, ?_, h.opened, hregular, ?_,
    ?_, hlooks.symm⟩, List.prefix_append _ _, ?_, ?_, hpassed⟩
  · show c.splitter.Sound
    rw [hsplitter]
    exact h.sound
  · show p.written ++ p.framing.frameBytes frame.toBytes = c.splitter.framing.framesBytes _
    rw [hframing, hsent, List.take_add_one, hnext, Framing.framesBytes_append, ← h.written,
      Option.toList_some, Framing.framesBytes_singleton]
  · exact h.printed.trans (by rw [hreceived])
  · rw [hreceived]
    exact congrArg _ hahead.symm
  · rw [hreceived, hcalls, List.append_nil]

theorem receive_of_frame {bs : Bytes} {d : Decoded} {c : Connection} {s : Inbound}
    (hreceive : p.client.connection.receive p.inbound = (.frame bs, c, s))
    (hdecode : p.client.processor.decode bs = .ok d) :
    p.client.receive p.inbound = (.decoded d, { p.client with connection := c }, s) := by
  simp only [Client.receive, hreceive, hdecode]

theorem receive_of_pending {c : Connection} {s : Inbound}
    (hreceive : p.client.connection.receive p.inbound = (.pending, c, s)) :
    p.client.receive p.inbound = (.pending, { p.client with connection := c }, s) := by
  simp only [Client.receive, hreceive]

theorem echoLine_echoOf (data : Bytes) :
    echoLine data (.message (Builtin.echoOf data)) = s!"Echo ok ({data.length} bytes)" := by
  have hvalue : (Decoded.message (Builtin.echoOf data)).as? Builtin.echo =
      some (Builtin.echoOf data).value := Message.as?_self ..
  have hdata : ((Decoded.message (Builtin.echoOf data)).as? Builtin.echo).map Builtin.echoData =
      some data :=
    (congrArg (Option.map Builtin.echoData) hvalue).trans
      (congrArg some (Builtin.echoData_echoOf data))
  simp only [echoLine, hdata, if_true]

theorem handle_pong (p : Pinger) (v : Builtin.ping.Value) :
    p.handle (.handler () (Builtin.pongFor v) ()) =
      { p with looks := p.looks + 1, printed := p.printed ++ [pongLine v (p.clock p.looks)] } := by
  have hvalue : (Builtin.pongFor v).as? Builtin.pong = some v := Message.as?_self ..
  simp only [handle, hvalue]
  rfl

/-- Receiving the next reply. -/
theorem Talks.take (h : Talks config r clock p) {frame : Bytes} {c : Connection} {s : Inbound}
    {next : PingStage} {n : Nat} {line : String}
    (hreceive : p.client.connection.receive p.inbound = (.frame frame, c, s))
    (hnext : (r.replies config.byteOrder clock)[p.stage.received r]? = some frame)
    (hline : (r.lines clock)[p.stage.received r]? = some line)
    (hcalls : (r.calls clock)[p.stage.received r]?.toList = p.calls)
    (hsent : next.sent r = p.stage.sent r) (hreceived : next.received r = p.stage.received r + 1)
    (hlooks : next.looks r = n) (hregular : next.Regular r)
    (hpassed : next.passed r = p.stage.passed r + 1) :
    Advances config r clock p { p with
      client := { p.client with connection := c }
      inbound := s
      printed := p.printed ++ [line]
      looks := n
      stage := next } := by
  have hkept := Connection.kept_receive p.client.connection p.inbound
  rw [hreceive] at hkept
  have hframing : c.splitter.framing = p.framing := hkept.framing
  refine ⟨⟨h.asks, h.ticks, h.processor, hframing.trans h.configured, hkept.sound h.sound,
    hkept.closed.trans h.opened, hregular, ?_, ?_, hlooks.symm⟩, List.prefix_refl _, ?_, ?_,
    hpassed⟩
  · show p.written = c.splitter.framing.framesBytes _
    rw [hframing, hsent]
    exact h.written
  · show p.printed ++ [line] = _
    rw [hreceived, List.take_add_one, hline, h.printed]
    rfl
  · have hahead : p.ahead = p.framing.frameBytes frame ++ c.ahead s := by
      rw [← Framing.framesBytes_singleton]
      exact hkept.ahead
    show _ = _ ++ c.ahead s
    rw [hreceived, List.take_add_one, hnext, Framing.framesBytes_append, Option.toList_some,
      Framing.framesBytes_singleton, hahead, List.append_assoc]
  · rw [hreceived, List.take_add_one, hcalls]

/-! ## Every stage -/

theorem Talks.goes_notice (h : Talks config r clock p) (hfits : r.longest ≤ p.framing.limit)
    (hstage : p.stage = .notice) : Goes config r clock p := by
  have hcalls : p.calls = [] := by rw [calls, hstage]
  have hlooks : p.looks = 0 := by rw [h.looks, hstage]; rfl
  have hregular : PingStage.Regular r (.ping 0) := .ping (Nat.zero_le _)
  rcases hnotice : r.notice with _ | text
  · have hstep : p.step? = some { p with stage := .ping 0 } := by
      simp only [step?, hstage, h.asks, hnotice]
    refine .advance hstep (h.skip ?_ ?_ ?_ hregular ?_ hcalls)
    all_goals simp [hstage, PingStage.sent, PingStage.received, PingStage.looks, PingStage.passed,
      hnotice]
  · have hstep : p.step? =
        some ({ p with looks := 0 }.sendThen (Builtin.noticeOf text) (.ping 0)) := by
      have hsame : { p with looks := 0 } = p := by rw [← hlooks]
      rw [hsame]
      simp only [step?, hstage, h.asks, hnotice]
    have hencode := encode_processor config.byteOrder PingerEntry.notice_mem (text, ())
    refine .advance hstep (h.send hfits hencode ?_ ?_ ?_ rfl hregular ?_ hcalls)
    · rw [hstage]
      exact PingRequest.requests_notice hnotice
    all_goals simp [hstage, PingStage.sent, PingStage.received, PingStage.passed, hnotice]

theorem Talks.goes_ping (h : Talks config r clock p) (hfits : r.longest ≤ p.framing.limit)
    {seq : Nat} (hstage : p.stage = .ping seq) (hle : seq ≤ r.count.toNat) :
    Goes config r clock p := by
  have hcalls : p.calls = [] := by rw [calls, hstage]
  have hlooks : p.looks = 2 * seq := by rw [h.looks, hstage]; rfl
  by_cases hlt : seq < r.count.toNat
  · have hstep : p.step? = some ({ p with looks := 2 * seq + 1 }.sendThen
        (Builtin.pingOf (UInt32.ofNat seq) (clock (2 * seq))) (.pong seq)) := by
      have hlooked : { p with looks := 2 * seq + 1 } = p.looked := by rw [looked, hlooks]
      have hnow : clock (2 * seq) = p.now := by rw [now, h.ticks, hlooks]
      rw [hlooked, hnow]
      simp only [step?, hstage, h.asks, if_pos hlt]
    have hencode := encode_processor config.byteOrder PingerEntry.ping_mem
      (PingRequest.probe clock seq)
    refine .advance hstep (h.send hfits hencode ?_ ?_ ?_ rfl (.pong hlt) ?_ hcalls)
    · rw [hstage]
      exact PingRequest.requests_probe hlt
    all_goals simp [hstage, PingStage.sent, PingStage.received, PingStage.passed]
  · have hseq : seq = r.count.toNat := Nat.le_antisymm hle (Nat.le_of_not_lt hlt)
    have hstep : p.step? = some { p with stage := .echo } := by
      simp only [step?, hstage, h.asks, if_neg hlt]
    refine .advance hstep (h.skip ?_ ?_ ?_ .echo ?_ hcalls)
    all_goals simp [hstage, PingStage.sent, PingStage.received, PingStage.looks, PingStage.passed,
      hseq]

theorem Talks.goes_echo (h : Talks config r clock p) (hfits : r.longest ≤ p.framing.limit)
    (hstage : p.stage = .echo) : Goes config r clock p := by
  have hcalls : p.calls = [] := by rw [calls, hstage]
  have hlooks : p.looks = 2 * r.count.toNat := by rw [h.looks, hstage]; rfl
  have hstep : p.step? = some ({ p with looks := 2 * r.count.toNat }.sendThen
      (Builtin.echoOf (Utf8.ofString r.name)) .echoReply) := by
    have hsame : { p with looks := 2 * r.count.toNat } = p := by rw [← hlooks]
    rw [hsame]
    simp only [step?, hstage, echoBytes, h.asks]
  have hencode := encode_processor config.byteOrder PingerEntry.echo_mem
    (Builtin.echoOf (Utf8.ofString r.name)).value
  refine .advance hstep (h.send hfits hencode ?_ ?_ ?_ rfl .echoReply ?_ hcalls)
  · rw [hstage]
    exact PingRequest.requests_echo
  all_goals simp [hstage, PingStage.sent, PingStage.received, PingStage.passed]

/-- The next reply is received, or it is not complete. -/
theorem Talks.receives (h : Talks config r clock p) (hfits : r.longest ≤ p.framing.limit)
    (hahead : p.ahead <+: p.framing.framesBytes
      ((r.replies config.byteOrder clock).drop (p.stage.received r)))
    {frame : Bytes} (hnext : (r.replies config.byteOrder clock)[p.stage.received r]? = some frame) :
    (∃ c s, p.client.connection.receive p.inbound = (.frame frame, c, s)) ∨
    (∃ c s, p.client.receive p.inbound = (.pending, c, s)) ∧
      ¬ p.framing.frameBytes frame <+: p.ahead := by
  obtain ⟨hlt, rfl⟩ := List.getElem?_eq_some_iff.mp hnext
  rw [List.drop_eq_getElem_cons hlt] at hahead
  have hshort : ∀ reply ∈ (r.replies config.byteOrder clock)[p.stage.received r] ::
      (r.replies config.byteOrder clock).drop (p.stage.received r + 1),
      reply.length ≤ p.framing.limit := by
    intro reply hreply
    rw [← List.drop_eq_getElem_cons hlt] at hreply
    exact Nat.le_trans (PingRequest.length_replies_le _ (List.mem_of_mem_drop hreply)) hfits
  cases Connection.expects_of_prefix h.sound h.opened hshort hahead with
  | frame receives front behind => exact .inl ⟨_, _, receives⟩
  | wait receives same incomplete =>
    exact .inr ⟨⟨_, _, receive_of_pending receives⟩, incomplete _ _ rfl⟩

theorem Talks.goes_pong (h : Talks config r clock p) (hfits : r.longest ≤ p.framing.limit)
    (hahead : p.ahead <+: p.framing.framesBytes
      ((r.replies config.byteOrder clock).drop (p.stage.received r)))
    {seq : Nat} (hstage : p.stage = .pong seq) (hlt : seq < r.count.toNat) :
    Goes config r clock p := by
  have hnext : (r.replies config.byteOrder clock)[p.stage.received r]? =
      some (PingRequest.pongFrame config.byteOrder clock seq) := by
    rw [hstage]
    exact PingRequest.replies_pong hlt
  rcases h.receives hfits hahead hnext with ⟨c, s, hreceive⟩ | ⟨⟨c, s, hpending⟩, hincomplete⟩
  · have hdecode : p.client.processor.decode (PingRequest.pongFrame config.byteOrder clock seq) =
        .ok (.message (Builtin.pongFor (PingRequest.probe clock seq))) := by
      rw [h.processor]
      exact decode_processor config.byteOrder PingerEntry.pong_mem (Builtin.fits_pongFor _)
    have hroute : p.client.processor.route
        (.message (Builtin.pongFor (PingRequest.probe clock seq))) () =
        .ok [.handler () (Builtin.pongFor (PingRequest.probe clock seq)) ()] := by
      rw [h.processor]
      exact route_pong config.byteOrder _
    have hclient := receive_of_frame hreceive hdecode
    have hstep : p.step? = some { p with
        client := { p.client with connection := c }
        inbound := s
        printed := p.printed ++ [pongLine (PingRequest.probe clock seq) (clock (2 * seq + 1))]
        looks := 2 * (seq + 1)
        stage := .ping (seq + 1) } := by
      have hlooks : p.looks = 2 * seq + 1 := by rw [h.looks, hstage]; rfl
      simp only [step?, hstage, answer?, hclient, deliver, hroute, List.foldl_cons, List.foldl_nil,
        handle_pong, h.ticks, hlooks]
      rfl
    have hcalls : p.calls = [.handler () (Builtin.pongFor (PingRequest.probe clock seq)) ()] := by
      simp only [calls, hstage, hclient, hroute]
      rfl
    refine .advance hstep (h.take hreceive hnext ?_ ?_ ?_ ?_ rfl (.ping hlt) ?_)
    · rw [hstage]
      exact PingRequest.lines_pong hlt
    · rw [hcalls, hstage, PingStage.received, PingRequest.calls_pong hlt]
      rfl
    · rw [hstage]
      rfl
    · rw [hstage]
      rfl
    · simp only [hstage, PingStage.passed]
      omega
  · refine .of_incomplete ?_ ?_ hnext hincomplete
    · simp only [step?, hstage, answer?, hpending]
    · rw [hstage]
      rfl

theorem Talks.goes_echoReply (h : Talks config r clock p) (hfits : r.longest ≤ p.framing.limit)
    (hahead : p.ahead <+: p.framing.framesBytes
      ((r.replies config.byteOrder clock).drop (p.stage.received r)))
    (hstage : p.stage = .echoReply) : Goes config r clock p := by
  have hnext : (r.replies config.byteOrder clock)[p.stage.received r]? =
      some (r.echoFrame config.byteOrder) := by
    rw [hstage]
    exact PingRequest.replies_echo
  rcases h.receives hfits hahead hnext with ⟨c, s, hreceive⟩ | ⟨⟨c, s, hpending⟩, hincomplete⟩
  · have hdecode : p.client.processor.decode (r.echoFrame config.byteOrder) =
        .ok (.message (Builtin.echoOf (Utf8.ofString r.name))) := by
      have hlength := PingRequest.length_echoFrame_le r config.byteOrder
      rw [PingRequest.length_echoFrame] at hlength
      have hdescribed : p.framing.limit ≤ Framing.largestLength := h.sound.limit_le
      have hdata : Message.Fits (Builtin.echoOf (Utf8.ofString r.name)) :=
        Builtin.fits_echoOf (by omega)
      rw [h.processor]
      exact decode_processor config.byteOrder PingerEntry.echo_mem hdata
    have hclient := receive_of_frame hreceive hdecode
    have hstep : p.step? = some { p with
        client := { p.client with connection := c }
        inbound := s
        printed := p.printed ++ [s!"Echo ok ({(Utf8.ofString r.name).length} bytes)"]
        looks := 2 * r.count.toNat
        stage := .over none } := by
      have hlooks : p.looks = 2 * r.count.toNat := by rw [h.looks, hstage]; rfl
      simp only [step?, hstage, answer?, hclient, echoBytes, h.asks, echoLine_echoOf, ← hlooks]
    have hcalls : p.calls = [] := by
      simp only [calls, hstage]
    refine .advance hstep (h.take hreceive hnext ?_ ?_ ?_ ?_ rfl .ended ?_)
    · rw [hstage]
      exact PingRequest.lines_echo
    · rw [hcalls, hstage, PingStage.received,
        List.getElem?_eq_none (Nat.le_of_eq PingRequest.length_calls)]
      rfl
    · rw [hstage]
      rfl
    · rw [hstage]
      rfl
    · simp only [hstage, PingStage.passed]
  · refine .of_incomplete ?_ ?_ hnext hincomplete
    · simp only [step?, hstage, answer?, hpending]
    · rw [hstage]
      rfl

/-- A pinger goes on unless it waits for a reply that is not complete. -/
theorem Talks.goes (h : Talks config r clock p) (hfits : r.longest ≤ p.framing.limit)
    (hahead : p.ahead <+: p.framing.framesBytes
      ((r.replies config.byteOrder clock).drop (p.stage.received r))) : Goes config r clock p := by
  have hregular := h.regular
  generalize hstage : p.stage = stage at hregular
  cases hregular with
  | notice => exact h.goes_notice hfits hstage
  | ping hle => exact h.goes_ping hfits hstage hle
  | pong hlt => exact h.goes_pong hfits hahead hstage hlt
  | echo => exact h.goes_echo hfits hstage
  | echoReply => exact h.goes_echoReply hfits hahead hstage
  | ended => exact .ended hstage

theorem Talks.advances (h : Talks config r clock p) (hfits : r.longest ≤ p.framing.limit)
    (hahead : p.ahead <+: p.framing.framesBytes
      ((r.replies config.byteOrder clock).drop (p.stage.received r)))
    {p' : Pinger} (hstep : p.step? = some p') : Advances config r clock p p' := by
  cases h.goes hfits hahead with
  | advance step advances =>
    cases step.symm.trans hstep
    exact advances
  | wait step asked incomplete => cases step.symm.trans hstep
  | ended done =>
    simp only [step?, done] at hstep
    cases hstep

/-- What arrives does not disturb a pinger. -/
theorem Talks.arrive (h : Talks config r clock p) (piece : Bytes) :
    Talks config r clock { p with inbound := p.inbound.arrive piece } :=
  ⟨h.asks, h.ticks, h.processor, h.configured, h.sound, h.opened, h.regular, h.written, h.printed,
    h.looks⟩

theorem ahead_arrive (p : Pinger) (piece : Bytes) :
    ahead { p with inbound := p.inbound.arrive piece } = p.ahead ++ piece := by
  simp [ahead, Connection.ahead, Inbound.bytes, Inbound.arrive]

/-- A new pinger has done nothing yet. -/
theorem talks_new (config : NetworkConfig) (r : PingRequest) (clock : Nat → UInt64) :
    Talks config r clock (new config r clock) where
  asks := rfl
  ticks := rfl
  processor := rfl
  configured := rfl
  sound := Splitter.sound_new (Framing.new_limit_le config.byteOrder config.maxFrameSize.toNat)
  opened := rfl
  regular := .notice
  written := rfl
  printed := rfl
  looks := rfl

end Pinger

end Switchboard
