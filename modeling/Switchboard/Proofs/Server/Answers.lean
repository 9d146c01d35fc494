import Switchboard.Proofs.Processor.RoundTrip
import Switchboard.Proofs.Server.Run

/-!
# What a server answers

A server uses every frame that it can decode: it answers a ping with the pong of the same fields
and any frame of the echo identifier with the frame itself, and it submits a notice to the router,
if there is one. It answers nothing else. Its answers can always be encoded, and none is longer than
the frame that it answers.
-/

namespace Switchboard

variable {C : Type}

namespace Processor

variable {P : Type} {p : Processor P} {e : Entry P}

theorem route_raw {r : RawMessage} {party : P} (he : p.registry.byId? r.id = some e)
    (hparty : e.rawHandler = some party) (context : C) :
    p.route (.raw r) context = .ok [.raw party r context] :=
  Dispatcher.route_raw (d := p.dispatcher) he hparty context

theorem route_message {v : e.schema.Value} (he : p.registry.lookup? ⟨e.schema, v⟩ = some e)
    (haccepts : ∀ h, e.handler = some h → h.accepts = e.schema) (context : C) :
    p.route (.message ⟨e.schema, v⟩) context =
      .ok ((e.handler.map fun h => Call.handler h.party ⟨e.schema, v⟩ context).toList ++
        (e.router.map fun q => Call.router q ⟨e.schema.tag, ⟨e.schema, v⟩, context⟩).toList) :=
  Dispatcher.route_message (d := p.dispatcher) he rfl haccepts context

end Processor

/-! ## The configuration -/

namespace ServerEntry

def ping : Entry Responder :=
  ⟨Builtin.pingId, Builtin.ping, some ⟨Builtin.ping, .answerPing⟩, none, none⟩

def pong : Entry Responder :=
  ⟨Builtin.pongId, Builtin.pong, none, none, none⟩

def echo : Entry Responder :=
  ⟨Builtin.echoId, Builtin.echo, none, none, some .sendBack⟩

def notice (router : Bool) : Entry Responder :=
  ⟨Builtin.noticeId, Builtin.notice, none, if router then some .router else none, none⟩

/-- The entries of a server's registry. -/
def all (router : Bool) : List (Entry Responder) :=
  [ping, pong, echo, notice router]

theorem mem_all_iff {router : Bool} {e : Entry Responder} :
    e ∈ all router ↔ e = ping ∨ e = pong ∨ e = echo ∨ e = notice router := by
  simp [all]

theorem ping_mem (router : Bool) : ping ∈ all router :=
  .head _

theorem pong_mem (router : Bool) : pong ∈ all router :=
  .tail _ (.head _)

theorem echo_mem (router : Bool) : echo ∈ all router :=
  .tail _ (.tail _ (.head _))

theorem notice_mem (router : Bool) : notice router ∈ all router :=
  .tail _ (.tail _ (.tail _ (.head _)))

end ServerEntry

theorem entries_serverProcessor (order : ByteOrder) (router : Bool) :
    (serverProcessor order router).registry.entries = ServerEntry.all router := by
  cases order <;> cases router <;> rfl

theorem byteOrder_serverProcessor (order : ByteOrder) (router : Bool) :
    (serverProcessor order router).byteOrder = order := by
  cases order <;> cases router <;> rfl

theorem valid_serverProcessor (order : ByteOrder) (router : Bool) :
    (serverProcessor order router).registry.Valid :=
  (ProcessorBuilder.records_new.run (serverSteps order router)).valid

/-! ## The answers to what a frame holds -/

/-- The replies of a server. -/
def serverReplies : Decoded → List Outbound
  | .message m => ((m.as? Builtin.ping).map fun v => .message (Builtin.pongFor v)).toList
  | .raw r => [.raw r]

/-- What a server submits to its router. -/
def serverSubmissions (router : Bool) (context : C) : Decoded → List (Submission C)
  | .message m => if router && m.is Builtin.notice then [⟨m.tag, m, context⟩] else []
  | .raw _ => []

/-- What a server can decode. -/
inductive ServerDecoded (order : ByteOrder) (frame : Frame) : Decoded → Prop
  | ping {v : Builtin.ping.Value} (read : Builtin.ping.read frame.payload = .ok v) :
      ServerDecoded order frame (.message ⟨Builtin.ping, v⟩)
  | pong (v : Builtin.pong.Value) : ServerDecoded order frame (.message ⟨Builtin.pong, v⟩)
  | echo (header : order.decode16 frame.header = Builtin.echoId) :
      ServerDecoded order frame (.raw ⟨Builtin.echoId, frame.payload⟩)
  | notice (v : Builtin.notice.Value) : ServerDecoded order frame (.message ⟨Builtin.notice, v⟩)

variable {order : ByteOrder} {router : Bool} {frame : Bytes} {d : Decoded}

theorem serverDecoded_of_decode (h : (serverProcessor order router).decode frame = .ok d) :
    ∃ f : Frame, frame = f.toBytes ∧ ServerDecoded order f d := by
  obtain ⟨f, e, hbytes, he, hcase⟩ := Codec.decode_eq_ok_iff.mp h
  obtain ⟨hmem, hid⟩ := (valid_serverProcessor order router).byId?_eq_some_iff.mp he
  refine ⟨f, hbytes, ?_⟩
  rw [entries_serverProcessor] at hmem
  simp only [Processor.codec, byteOrder_serverProcessor] at hid hcase
  rcases ServerEntry.mem_all_iff.mp hmem with rfl | rfl | rfl | rfl
  · rcases hcase with ⟨hraw, -⟩ | ⟨-, v, hread, rfl⟩
    · cases hraw
    · exact .ping hread
  · rcases hcase with ⟨hraw, -⟩ | ⟨-, v, -, rfl⟩
    · cases hraw
    · exact .pong v
  · rcases hcase with ⟨-, rfl⟩ | ⟨hraw, -⟩
    · rw [← hid]
      exact .echo hid.symm
    · cases hraw
  · rcases hcase with ⟨hraw, -⟩ | ⟨-, v, -, rfl⟩
    · cases hraw
    · exact .notice v

/-- A message of a registered type finds its entry. -/
theorem lookup_serverProcessor (order : ByteOrder) {e : Entry Responder}
    (he : e ∈ ServerEntry.all router) (v : e.schema.Value) :
    (serverProcessor order router).registry.lookup? ⟨e.schema, v⟩ = some e := by
  rw [(valid_serverProcessor order router).lookup?_eq_some_iff, entries_serverProcessor]
  exact ⟨he, rfl⟩

theorem byId_serverProcessor (order : ByteOrder) {e : Entry Responder}
    (he : e ∈ ServerEntry.all router) :
    (serverProcessor order router).registry.byId? e.id = some e := by
  rw [(valid_serverProcessor order router).byId?_eq_some_iff, entries_serverProcessor]
  exact ⟨he, rfl⟩

/-- A message of a registered type goes to the parties of its entry. -/
theorem route_message_serverProcessor (order : ByteOrder) {e : Entry Responder}
    (he : e ∈ ServerEntry.all router) (v : e.schema.Value) (context : C) :
    (serverProcessor order router).route (.message ⟨e.schema, v⟩) context =
      .ok ((e.handler.map fun h => Call.handler h.party ⟨e.schema, v⟩ context).toList ++
        (e.router.map fun p => Call.router p ⟨e.schema.tag, ⟨e.schema, v⟩, context⟩).toList) := by
  have hmem : e ∈ (serverProcessor order router).registry.entries := by
    rw [entries_serverProcessor]
    exact he
  have haccepts := (valid_serverProcessor order router).accepts e hmem
  exact Processor.route_message (lookup_serverProcessor order he v) haccepts context

/-- A handler of a server answers pings. -/
theorem Responder.replies_answerPing (m : Message) (context : C) :
    Responder.replies (.handler .answerPing m context) = serverReplies (.message m) := by
  rcases h : m.as? Builtin.ping with _ | v
  · simp only [Responder.replies, Responder.respond, serverReplies, h]
    rfl
  · simp only [Responder.replies, Responder.respond, serverReplies, h]
    rfl

theorem Responder.submissions_answerPing (m : Message) (context : C) :
    Responder.submissions (.handler .answerPing m context) = [] := by
  rcases h : m.as? Builtin.ping with _ | v
  · simp only [Responder.submissions, Responder.respond, h]
  · simp only [Responder.submissions, Responder.respond, h]

namespace Builtin

theorem pong_ne_ping : pong ≠ ping :=
  fun h => absurd (congrArg Schema.tag h) (by decide)

theorem ping_ne_notice : ping ≠ notice :=
  fun h => nomatch congrArg Schema.format h

theorem pong_ne_notice : pong ≠ notice :=
  fun h => nomatch congrArg Schema.format h

end Builtin

theorem Message.as?_of_ne {s t : Schema} (h : s ≠ t) (v : s.Value) :
    (Message.mk s v).as? t = none :=
  dif_neg h

theorem Message.is_of_ne {s t : Schema} (h : s ≠ t) (v : s.Value) :
    (Message.mk s v).is t = false :=
  decide_eq_false h

/-- Whatever is decoded is delivered, and answered by what it holds. -/
theorem route_serverProcessor (h : (serverProcessor order router).decode frame = .ok d)
    (context : C) :
    ∃ calls, (serverProcessor order router).route d context = .ok calls ∧
      calls.flatMap Responder.replies = serverReplies d ∧
      calls.flatMap Responder.submissions = serverSubmissions router context d := by
  obtain ⟨f, -, hd⟩ := serverDecoded_of_decode h
  cases hd with
  | @ping v hread =>
    have hroute : (serverProcessor order router).route (.message ⟨Builtin.ping, v⟩) context =
        .ok [.handler .answerPing ⟨Builtin.ping, v⟩ context] :=
      route_message_serverProcessor order (ServerEntry.ping_mem router) v context
    have hnotice := Message.is_of_ne Builtin.ping_ne_notice v
    refine ⟨_, hroute, ?_, ?_⟩
    · rw [List.flatMap_singleton, Responder.replies_answerPing]
    · rw [List.flatMap_singleton, Responder.submissions_answerPing, serverSubmissions, hnotice,
        Bool.and_false]
      rfl
  | pong v =>
    have hroute : (serverProcessor order router).route (.message ⟨Builtin.pong, v⟩) context =
        .ok [] :=
      route_message_serverProcessor order (ServerEntry.pong_mem router) v context
    have hping := Message.as?_of_ne Builtin.pong_ne_ping v
    have hnotice := Message.is_of_ne Builtin.pong_ne_notice v
    refine ⟨_, hroute, ?_, ?_⟩
    · rw [serverReplies, hping]
      rfl
    · rw [serverSubmissions, hnotice, Bool.and_false]
      rfl
  | echo hid =>
    have hroute : (serverProcessor order router).route (.raw ⟨Builtin.echoId, f.payload⟩) context =
        .ok [.raw .sendBack ⟨Builtin.echoId, f.payload⟩ context] :=
      Processor.route_raw (r := ⟨Builtin.echoId, f.payload⟩)
        (byId_serverProcessor order (ServerEntry.echo_mem router)) rfl context
    exact ⟨_, hroute, rfl, rfl⟩
  | notice v =>
    have hroute := route_message_serverProcessor order (ServerEntry.notice_mem router) v context
    have hping := Message.as?_of_ne Builtin.ping_ne_notice.symm v
    have hnotice : (Message.mk Builtin.notice v).is Builtin.notice = true := decide_eq_true rfl
    refine ⟨_, hroute, ?_, ?_⟩
    · rw [serverReplies, hping]
      cases router <;> rfl
    · rw [serverSubmissions, hnotice, Bool.and_true]
      cases router <;> rfl

/-- A server can use what it can decode. -/
theorem usable_iff_decoded {context : C} :
    (serverProcessor order router).Usable context frame ↔
      ∃ d, (serverProcessor order router).decode frame = .ok d := by
  constructor
  · rintro ⟨d, -, hd, -⟩
    exact ⟨d, hd⟩
  · rintro ⟨d, hd⟩
    obtain ⟨calls, hcalls, -⟩ := route_serverProcessor hd context
    exact ⟨d, calls, hd, hcalls⟩

/-- What a frame makes is told by what it holds. -/
theorem replies_serverProcessor (h : (serverProcessor order router).decode frame = .ok d)
    (context : C) :
    (serverProcessor order router).replies context frame = serverReplies d ∧
      (serverProcessor order router).submissions context frame =
        serverSubmissions router context d := by
  obtain ⟨calls, hcalls, hreplies, hsubmissions⟩ := route_serverProcessor h context
  rw [Processor.replies, Processor.submissions,
    Processor.handle_eq h hcalls Mailbox.open_new]
  exact ⟨hreplies, hsubmissions⟩

/-! ## Reading a probe -/

namespace Builtin

/-- The fields of a ping, which are those of a pong. -/
def probeFields : Fields :=
  .ofList [("seq", .u32), ("sent_at_us", .u64)]

/-- The fields that are in the first twelve bytes of a payload. -/
def probe (bs : Bytes) : probeFields.Val :=
  (BitVec.ofNat 32 (Bytes.toNat (bs.take 4)), BitVec.ofNat 64 (Bytes.toNat ((bs.drop 4).take 8)),
    ())

/-- Twelve bytes are read, whatever follows them. -/
theorem readBinary_probeFields (bs : Bytes) :
    probeFields.readBinary bs =
      if 12 ≤ bs.length then .ok (probe bs, bs.drop 12) else .error .endOfInput := by
  have hread : probeFields.readBinary bs =
      Binary.readBoth (Shape.readBinary .u32) (Binary.readBoth (Shape.readBinary .u64)
        fun bs => .ok ((), bs)) bs := rfl
  have hseq := Binary.readBinary_int ⟨false, .w32⟩ bs
  have htime := Binary.readBinary_int ⟨false, .w64⟩ (bs.drop 4)
  change Shape.u32.readBinary bs = if 4 ≤ bs.length then _ else _ at hseq
  change Shape.u64.readBinary (bs.drop 4) = if 8 ≤ (bs.drop 4).length then _ else _ at htime
  rw [List.length_drop] at htime
  -- First the number is read, and then the time behind it.
  rw [hread, Binary.readBoth, hseq]
  by_cases hfour : 4 ≤ bs.length
  · rw [if_pos hfour]
    show (Binary.readBoth (Shape.readBinary .u64) (fun bs => .ok ((), bs)) (bs.drop 4) >>= _) = _
    rw [Binary.readBoth, htime]
    by_cases htwelve : 12 ≤ bs.length
    · rw [if_pos (by omega), if_pos htwelve]
      show _ = Except.ok (probe bs, bs.drop (4 + 8))
      rw [← List.drop_drop]
      rfl
    · rw [if_neg (by omega), if_neg htwelve]
      rfl
  · rw [if_neg hfour, if_neg (by omega)]
    rfl

/-- The fields are written as they were read. -/
theorem toBinary_probe {bs : Bytes} (h : 12 ≤ bs.length) :
    probeFields.toBinary (probe bs) = bs.take 12 := by
  have hrest : 8 ≤ (bs.drop 4).length := by
    rw [List.length_drop]
    omega
  have hfour : 4 ≤ bs.length := by omega
  have hseq := Binary.toBinary_int (k := ⟨false, .w32⟩) hfour
  have htime := Binary.toBinary_int (k := ⟨false, .w64⟩) hrest
  have htwelve : bs.take 12 = bs.take 4 ++ (bs.drop 4).take 8 := List.take_add (i := 4) (j := 8)
  have hprobe : probeFields.toBinary (probe bs) =
      Shape.toBinary .u32 (probe bs).1 ++ (Shape.toBinary .u64 (probe bs).2.1 ++ []) := rfl
  rw [hprobe, List.append_nil, htwelve]
  exact congrArg₂ (· ++ ·) hseq htime

theorem read_probe (typeName tag name : String) (bs : Bytes) :
    (Schema.mk typeName tag .binary (.record name probeFields)).read bs =
      if 12 ≤ bs.length then .ok (probe bs) else .error (.binary .endOfInput) := by
  rw [Schema.read]
  dsimp only [Shape.readBinary]
  rw [readBinary_probeFields]
  by_cases h : 12 ≤ bs.length
  · rw [if_pos h, if_pos h]
  · rw [if_neg h, if_neg h]

theorem read_ping (bs : Bytes) :
    ping.read bs = if 12 ≤ bs.length then .ok (probe bs) else .error (.binary .endOfInput) :=
  read_probe _ _ _ bs

theorem read_pong (bs : Bytes) :
    pong.read bs = if 12 ≤ bs.length then .ok (probe bs) else .error (.binary .endOfInput) :=
  read_probe _ _ _ bs

/-- The pong of a ping has its first twelve bytes. -/
theorem exists_read_ping {bs : Bytes} (h : 12 ≤ bs.length) :
    ∃ v : ping.Value, ping.read bs = .ok v ∧ pong.shape.toBinary v = bs.take 12 := by
  have hread := read_ping bs
  rw [if_pos h] at hread
  exact ⟨_, hread, toBinary_probe h⟩

theorem exists_read_pong {bs : Bytes} (h : 12 ≤ bs.length) :
    ∃ v : pong.Value, pong.read bs = .ok v := by
  have hread := read_pong bs
  rw [if_pos h] at hread
  exact ⟨_, hread⟩

end Builtin

/-! ## Answers can be sent -/

/-- The contents of a ping are not shorter than those of its pong. -/
theorem length_of_read_ping {v : Builtin.ping.Value} {bs : Bytes}
    (h : Builtin.ping.read bs = .ok v) : (Builtin.pong.shape.toBinary v).length ≤ bs.length := by
  have hpong : (Builtin.pong.shape.toBinary v).length = 12 := rfl
  rw [hpong]
  by_cases htwelve : 12 ≤ bs.length
  · exact htwelve
  · rw [Builtin.read_ping, if_neg htwelve] at h
    cases h

/-- The reply to a frame can be encoded, and is not longer than the frame. -/
theorem reply_fits {context : C} {o : Outbound}
    (h : o ∈ (serverProcessor order router).replies context frame) :
    ∃ reply, (serverProcessor order router).encodeOutbound o = .ok reply ∧
      reply.length ≤ frame.length := by
  rcases hd : (serverProcessor order router).decode frame with e | d
  · have husable : ¬ (serverProcessor order router).Usable context frame := by
      rw [usable_iff_decoded, hd]
      rintro ⟨d, hd⟩
      cases hd
    rw [(Processor.silent_of_not_usable husable).1] at h
    cases h
  · rw [(replies_serverProcessor hd context).1] at h
    obtain ⟨f, rfl, hf⟩ := serverDecoded_of_decode hd
    rw [Frame.length_toBytes]
    cases hf with
    | @ping v hread =>
      have ho : o = .message ⟨Builtin.pong, v⟩ := by
        simpa [serverReplies, Builtin.pongFor] using h
      subst ho
      have hencode := Processor.encode_of_write
        (lookup_serverProcessor order (ServerEntry.pong_mem router) v) rfl
      exact ⟨_, hencode, Nat.add_le_add_left (length_of_read_ping hread) 2⟩
    | pong v =>
      rw [serverReplies, Message.as?_of_ne Builtin.pong_ne_ping v] at h
      cases h
    | echo hid =>
      cases List.mem_singleton.mp h
      have hencode := Processor.encodeRaw_of_byId (r := ⟨Builtin.echoId, f.payload⟩)
        (byId_serverProcessor order (ServerEntry.echo_mem router))
      exact ⟨_, hencode, Nat.le_refl _⟩
    | notice v =>
      rw [serverReplies, Message.as?_of_ne Builtin.ping_ne_notice.symm v] at h
      cases h

end Switchboard
