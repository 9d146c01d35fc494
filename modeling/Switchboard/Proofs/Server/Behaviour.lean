import Switchboard.Proofs.Server.Answers

/-!
# All that a server does with a frame

A server refuses a frame that has no identifier, or one that it does not know, and a payload that is
cut short or is no notice. Of the frames that it takes, a ping is answered with the pong of its
first twelve bytes and an echo with itself, a notice goes to the router, and a pong does nothing. A
session that is over takes no replies, and otherwise makes no difference.
-/

namespace Switchboard

variable {C : Type}

/-! ## Sessions that are over -/

/-- A mailbox after some replies: it takes them if it is open. -/
def Mailbox.accept (m : Mailbox) (os : List Outbound) : Mailbox :=
  if m.connected && m.received then m.enqueue os else m

namespace Mailbox

variable {m : Mailbox}

theorem Open.accept (h : m.Open) (os : List Outbound) : m.accept os = m.enqueue os := by
  rw [Mailbox.accept, h.1, h.2]
  rfl

theorem accept_of_not_open (h : ¬ m.Open) (os : List Outbound) : m.accept os = m := by
  rw [accept, if_neg]
  rwa [Bool.and_eq_true]

theorem accept_nil (m : Mailbox) : m.accept [] = m := by
  rw [accept, enqueue_nil, ite_self]

/-- A mailbox that is closed takes nothing, whatever is sent. -/
theorem offer_send_of_not_open (h : ¬ m.Open) (o : Outbound) : m.offer (m.send o) = m := by
  rcases hsend : m.send o with e | m'
  · rfl
  · exact absurd (open_of_send hsend).1 h

end Mailbox

namespace Responder

variable {m : Mailbox}

/-- A call does the same in a session that is over, but its replies are dropped. -/
theorem respond_of_not_open (h : ¬ m.Open) (c : Call Responder C) :
    respond m c = (m, submissions c) := by
  have offered (o : Outbound) := Mailbox.offer_send_of_not_open h o
  cases c with
  | handler party message context =>
    cases party with
    | answerPing =>
      rw [submissions_answerPing, respond]
      split
      · rw [Mailbox.reply, offered]
      · rfl
    | sendBack => rfl
    | router => rfl
  | router party submission => cases party <;> rfl
  | raw party message context =>
    cases party with
    | answerPing => rfl
    | sendBack =>
      rw [respond, Mailbox.replyRaw, offered]
      rfl
    | router => rfl

theorem respondAll_of_not_open (h : ¬ m.Open) (calls : List (Call Responder C)) :
    respondAll m calls = (m, calls.flatMap submissions) := by
  induction calls with
  | nil => rfl
  | cons c rest ih =>
    rw [respondAll, respond_of_not_open h]
    dsimp only
    rw [ih]
    rfl

theorem respondAll_accept (m : Mailbox) (calls : List (Call Responder C)) :
    respondAll m calls = (m.accept (calls.flatMap replies), calls.flatMap submissions) := by
  by_cases h : m.Open
  · rw [respondAll_eq h, h.accept]
  · rw [respondAll_of_not_open h, Mailbox.accept_of_not_open h]

end Responder

/-! ## What a server does -/

theorem serverReplies_ping (v : Builtin.ping.Value) :
    serverReplies (.message ⟨Builtin.ping, v⟩) = [.message (Builtin.pongFor v)] := by
  rw [serverReplies, Message.as?_self]
  rfl

theorem serverReplies_of_ne {s : Schema} (h : s ≠ Builtin.ping) (v : s.Value) :
    serverReplies (.message ⟨s, v⟩) = [] := by
  rw [serverReplies, Message.as?_of_ne h]
  rfl

theorem serverSubmissions_notice (router : Bool) (context : C) (v : Builtin.notice.Value) :
    serverSubmissions router context (.message ⟨Builtin.notice, v⟩) =
      if router then [⟨Builtin.notice.tag, ⟨Builtin.notice, v⟩, context⟩] else [] := by
  have hnotice : (Message.mk Builtin.notice v).is Builtin.notice = true := decide_eq_true rfl
  rw [serverSubmissions, hnotice, Bool.and_true]
  rfl

theorem serverSubmissions_of_ne {s : Schema} (h : s ≠ Builtin.notice) (router : Bool)
    (context : C) (v : s.Value) : serverSubmissions router context (.message ⟨s, v⟩) = [] := by
  rw [serverSubmissions, Message.is_of_ne h, Bool.and_false]
  rfl

section

variable {order : ByteOrder} {router : Bool} {f : Bytes} {d : Decoded}

theorem handle_serverProcessor (h : (serverProcessor order router).decode f = .ok d) (context : C)
    (m : Mailbox) :
    (serverProcessor order router).handle context f m =
      .ok (d, m.accept (serverReplies d), serverSubmissions router context d) := by
  obtain ⟨calls, hcalls, hreplies, hsubmissions⟩ := route_serverProcessor h context
  rw [Processor.handle, h]
  dsimp only
  rw [hcalls]
  dsimp only
  rw [Responder.respondAll_accept, hreplies, hsubmissions]

theorem handle_serverProcessor_of_error {e : CodecError}
    (h : (serverProcessor order router).decode f = .error e) (context : C) (m : Mailbox) :
    (serverProcessor order router).handle context f m = .error (.codec e) := by
  rw [Processor.handle, h]

namespace ServerEntry

variable {frame : Frame} {e : Entry Responder} (he : e ∈ ServerEntry.all router)
  (hid : order.decode16 frame.header = e.id)
include he hid

theorem byId_header :
    (serverProcessor order router).codec.registry.byId?
      ((serverProcessor order router).codec.byteOrder.decode16 frame.header) = some e := by
  rw [Processor.codec, byteOrder_serverProcessor, hid]
  exact byId_serverProcessor order he

theorem decode_of_rawHandler (hraw : e.rawHandler.isSome) :
    (serverProcessor order router).decode frame.toBytes = .ok (.raw ⟨e.id, frame.payload⟩) := by
  have hheader : (serverProcessor order router).codec.byteOrder.decode16 frame.header = e.id := by
    rw [Processor.codec, byteOrder_serverProcessor, hid]
  refine Codec.decode_eq_ok_iff.mpr ⟨frame, e, rfl, byId_header he hid, .inl ⟨hraw, ?_⟩⟩
  rw [hheader]

theorem decode_of_read (hraw : e.rawHandler = none) {v : e.schema.Value}
    (hread : e.schema.read frame.payload = .ok v) :
    (serverProcessor order router).decode frame.toBytes = .ok (.message ⟨e.schema, v⟩) :=
  Codec.decode_eq_ok_iff.mpr
    ⟨frame, e, rfl, byId_header he hid, .inr ⟨hraw, v, hread, rfl⟩⟩

theorem decode_of_misread (hraw : e.rawHandler = none) {err : PayloadError}
    (hread : e.schema.read frame.payload = .error err) :
    (serverProcessor order router).decode frame.toBytes = .error (.payload err) :=
  Codec.decode_of_misread (byId_header he hid) hraw hread

end ServerEntry

theorem decode_serverProcessor_of_unknown {frame : Frame} (h : order.decode16 frame.header ∉
      [Builtin.pingId, Builtin.pongId, Builtin.echoId, Builtin.noticeId]) :
    (serverProcessor order router).decode frame.toBytes =
      .error (.unknownId (order.decode16 frame.header)) := by
  have horder : (serverProcessor order router).codec.byteOrder = order :=
    byteOrder_serverProcessor order router
  have hnone : (serverProcessor order router).codec.registry.byId?
      (order.decode16 frame.header) = none := by
    refine (valid_serverProcessor order router).byId?_eq_none_iff.mpr ?_
    rw [entries_serverProcessor]
    intro e he hid
    apply h
    rw [← hid]
    rcases ServerEntry.mem_all_iff.mp he with rfl | rfl | rfl | rfl
    · exact .head _
    · exact .tail _ (.head _)
    · exact .tail _ (.tail _ (.head _))
    · exact .tail _ (.tail _ (.tail _ (.head _)))
  refine Codec.decode_of_unknown ?_ hnone
  rw [horder]

/-! ## One identifier at a time -/

namespace ServerEntry

variable {frame : Frame}

/-- An echo is answered with its own bytes, whatever they are. -/
theorem handle_echo (hid : order.decode16 frame.header = Builtin.echoId) (context : C)
    (m : Mailbox) :
    ∃ o reply, (serverProcessor order router).encodeOutbound o = .ok reply ∧
      reply.toBytes = frame.toBytes ∧
      (serverProcessor order router).handle context frame.toBytes m =
        .ok (.raw ⟨Builtin.echoId, frame.payload⟩, m.accept [o], []) := by
  have hdecode := decode_of_rawHandler (echo_mem router) hid rfl
  have hencode := Processor.encodeRaw_of_byId (r := ⟨Builtin.echoId, frame.payload⟩)
    (byId_serverProcessor order (echo_mem router))
  refine ⟨.raw ⟨Builtin.echoId, frame.payload⟩, _, hencode, ?_,
    handle_serverProcessor hdecode context m⟩
  dsimp only
  rw [byteOrder_serverProcessor, ← hid, ByteOrder.encode16_decode16]

/-- A ping is answered with its first twelve bytes. -/
theorem handle_ping (hid : order.decode16 frame.header = Builtin.pingId)
    (h : 12 ≤ frame.payload.length) (context : C) (m : Mailbox) :
    ∃ v o, Builtin.ping.read frame.payload = .ok v ∧
      (serverProcessor order router).encodeOutbound o =
        .ok ⟨order.encode16 Builtin.pongId, frame.payload.take 12⟩ ∧
      (serverProcessor order router).handle context frame.toBytes m =
        .ok (.message ⟨Builtin.ping, v⟩, m.accept [o], []) := by
  obtain ⟨v, hread, hbytes⟩ := Builtin.exists_read_ping h
  have hdecode : (serverProcessor order router).decode frame.toBytes =
      .ok (.message ⟨Builtin.ping, v⟩) :=
    decode_of_read (ping_mem router) hid rfl hread
  have hencode : (serverProcessor order router).encode (Builtin.pongFor v) =
      .ok ⟨(serverProcessor order router).byteOrder.encode16 Builtin.pongId,
        Builtin.pong.shape.toBinary v⟩ :=
    Processor.encode_of_write (lookup_serverProcessor order (pong_mem router) v) rfl
  rw [byteOrder_serverProcessor, hbytes] at hencode
  have hhandle := handle_serverProcessor hdecode context m
  rw [serverReplies_ping, serverSubmissions_of_ne Builtin.ping_ne_notice] at hhandle
  exact ⟨v, .message (Builtin.pongFor v), hread, hencode, hhandle⟩

/-- A notice is submitted once, if there is a router. -/
theorem handle_notice (hid : order.decode16 frame.header = Builtin.noticeId)
    {v : Builtin.notice.Value} (h : Builtin.notice.read frame.payload = .ok v) (context : C)
    (m : Mailbox) :
    (serverProcessor order router).handle context frame.toBytes m =
      .ok (.message ⟨Builtin.notice, v⟩, m,
        if router then [⟨Builtin.notice.tag, ⟨Builtin.notice, v⟩, context⟩] else []) := by
  have hdecode : (serverProcessor order router).decode frame.toBytes =
      .ok (.message ⟨Builtin.notice, v⟩) :=
    decode_of_read (notice_mem router) hid rfl h
  have hhandle := handle_serverProcessor hdecode context m
  rw [serverReplies_of_ne Builtin.ping_ne_notice.symm, serverSubmissions_notice,
    m.accept_nil] at hhandle
  exact hhandle

theorem handle_pong (hid : order.decode16 frame.header = Builtin.pongId)
    (h : 12 ≤ frame.payload.length) (context : C) (m : Mailbox) :
    ∃ v, Builtin.pong.read frame.payload = .ok v ∧
      (serverProcessor order router).handle context frame.toBytes m =
        .ok (.message ⟨Builtin.pong, v⟩, m, []) := by
  obtain ⟨v, hread⟩ := Builtin.exists_read_pong h
  have hdecode : (serverProcessor order router).decode frame.toBytes =
      .ok (.message ⟨Builtin.pong, v⟩) :=
    decode_of_read (pong_mem router) hid rfl hread
  have hhandle := handle_serverProcessor hdecode context m
  rw [serverReplies_of_ne Builtin.pong_ne_ping, serverSubmissions_of_ne Builtin.pong_ne_notice,
    m.accept_nil] at hhandle
  exact ⟨v, hread, hhandle⟩

/-- A probe that is cut short is not decoded, whichever of the two it is. -/
theorem decode_cut (hid : order.decode16 frame.header = Builtin.pingId ∨
      order.decode16 frame.header = Builtin.pongId) (h : frame.payload.length < 12) :
    (serverProcessor order router).decode frame.toBytes =
      .error (.payload (.binary .endOfInput)) := by
  have hshort : ¬ 12 ≤ frame.payload.length := Nat.not_le.mpr h
  rcases hid with hping | hpong
  · have hread := Builtin.read_ping frame.payload
    rw [if_neg hshort] at hread
    exact decode_of_misread (ping_mem router) hping rfl hread
  · have hread := Builtin.read_pong frame.payload
    rw [if_neg hshort] at hread
    exact decode_of_misread (pong_mem router) hpong rfl hread

end ServerEntry

/-- A session that is over makes no difference but for the replies. -/
theorem handle_of_not_open {m : Mailbox} (h : ¬ m.Open) (context : C) (f : Bytes) :
    (serverProcessor order router).handle context f m =
      ((serverProcessor order router).handle context f Mailbox.new).map
        fun (d, _, submissions) => (d, m, submissions) := by
  rcases hdecode : (serverProcessor order router).decode f with e | d
  · rw [handle_serverProcessor_of_error hdecode, handle_serverProcessor_of_error hdecode]
    rfl
  · rw [handle_serverProcessor hdecode, handle_serverProcessor hdecode,
      Mailbox.accept_of_not_open h]
    rfl

end

/-- All that a server does with a frame in a session with a given mailbox. -/
structure ServerBehaviour (order : ByteOrder) (router : Bool) (context : C) (m : Mailbox) :
    Prop where
  /-- No identifier. -/
  short (f : Bytes) (h : f.length < 2) :
    (serverProcessor order router).handle context f m =
      .error (.codec (.frameTooShort f.length))
  unknown (frame : Frame) (h : order.decode16 frame.header ∉
      [Builtin.pingId, Builtin.pongId, Builtin.echoId, Builtin.noticeId]) :
    (serverProcessor order router).handle context frame.toBytes m =
      .error (.codec (.unknownId (order.decode16 frame.header)))
  /-- A ping or a pong that is cut short. -/
  cut (frame : Frame) (hid : order.decode16 frame.header = Builtin.pingId ∨
      order.decode16 frame.header = Builtin.pongId) (h : frame.payload.length < 12) :
    (serverProcessor order router).handle context frame.toBytes m =
      .error (.codec (.payload (.binary .endOfInput)))
  /-- No notice. -/
  misread (frame : Frame) (hid : order.decode16 frame.header = Builtin.noticeId)
      (e : PayloadError) (h : Builtin.notice.read frame.payload = .error e) :
    (serverProcessor order router).handle context frame.toBytes m = .error (.codec (.payload e))
  /-- An echo is answered with its own bytes, whatever they are. -/
  echo (frame : Frame) (hid : order.decode16 frame.header = Builtin.echoId) :
    ∃ o reply, (serverProcessor order router).encodeOutbound o = .ok reply ∧
      reply.toBytes = frame.toBytes ∧
      (serverProcessor order router).handle context frame.toBytes m =
        .ok (.raw ⟨Builtin.echoId, frame.payload⟩, m.accept [o], [])
  /-- A ping is answered with its first twelve bytes. -/
  ping (frame : Frame) (hid : order.decode16 frame.header = Builtin.pingId)
      (h : 12 ≤ frame.payload.length) :
    ∃ v o, Builtin.ping.read frame.payload = .ok v ∧
      (serverProcessor order router).encodeOutbound o =
        .ok ⟨order.encode16 Builtin.pongId, frame.payload.take 12⟩ ∧
      (serverProcessor order router).handle context frame.toBytes m =
        .ok (.message ⟨Builtin.ping, v⟩, m.accept [o], [])
  /-- A notice is submitted once, if there is a router. -/
  notice (frame : Frame) (hid : order.decode16 frame.header = Builtin.noticeId)
      (v : Builtin.notice.Value) (h : Builtin.notice.read frame.payload = .ok v) :
    (serverProcessor order router).handle context frame.toBytes m =
      .ok (.message ⟨Builtin.notice, v⟩, m,
        if router then [⟨"msgproc.Notice", ⟨Builtin.notice, v⟩, context⟩] else [])
  pong (frame : Frame) (hid : order.decode16 frame.header = Builtin.pongId)
      (h : 12 ≤ frame.payload.length) :
    ∃ v, Builtin.pong.read frame.payload = .ok v ∧
      (serverProcessor order router).handle context frame.toBytes m =
        .ok (.message ⟨Builtin.pong, v⟩, m, [])
  /-- An open session takes every reply. -/
  opened (h : m.connected = true ∧ m.received = true) (os : List Outbound) :
    m.accept os = { m with queue := m.queue ++ os }
  /-- A session that is over takes none. All else is as in a new session. -/
  shut (h : m.connected = false ∨ m.received = false) (f : Bytes) :
    (serverProcessor order router).handle context f m =
      ((serverProcessor order router).handle context f Mailbox.new).map
        fun (d, _, submissions) => (d, m, submissions)

/-- What a server does with any byte string, in any session. -/
theorem serverBehaviour (order : ByteOrder) (router : Bool) (context : C) (m : Mailbox) :
    ServerBehaviour order router context m where
  short := by
    intro f h
    exact handle_serverProcessor_of_error (Codec.decode_of_short h) context m
  unknown := by
    intro frame h
    exact handle_serverProcessor_of_error (decode_serverProcessor_of_unknown h) context m
  cut := by
    intro frame hid h
    exact handle_serverProcessor_of_error (ServerEntry.decode_cut hid h) context m
  misread := by
    intro frame hid e h
    have hdecode := ServerEntry.decode_of_misread (ServerEntry.notice_mem router) hid rfl h
    exact handle_serverProcessor_of_error hdecode context m
  echo := by
    intro frame hid
    exact ServerEntry.handle_echo hid context m
  ping := by
    intro frame hid h
    exact ServerEntry.handle_ping hid h context m
  notice := by
    intro frame hid v h
    exact ServerEntry.handle_notice hid h context m
  pong := by
    intro frame hid h
    exact ServerEntry.handle_pong hid h context m
  opened := by
    intro h os
    exact Mailbox.Open.accept h os
  shut := by
    intro h f
    refine handle_of_not_open ?_ context f
    rintro ⟨hconnected, hreceived⟩
    simp [hconnected, hreceived] at h

end Switchboard
