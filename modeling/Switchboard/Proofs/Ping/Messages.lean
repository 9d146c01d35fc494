import Switchboard.Ping.Pinger
import Switchboard.Proofs.Server.Conversation

/-!
# Built-in messages on the way

The frames of the built-in messages are the same on both sides. A pinger reads every one of them, a
server all but echoes, and what a server answers to each is again a frame of this kind.
-/

namespace Switchboard

variable {C : Type}

/-! ## Payloads -/

namespace Builtin

/-- The payload of a message that can be written. -/
def payload (m : Message) : Bytes :=
  (m.schema.write m.value).toOption.getD []

/-- The frame of a message under an identifier. -/
def frame (order : ByteOrder) (id : MessageId) (m : Message) : Frame :=
  ⟨order.encode16 id, payload m⟩

theorem write_eq {m : Message} (h : m.schema ∈ bindings.map Prod.snd) :
    m.schema.write m.value = .ok (payload m) := by
  unfold payload
  cases hwrite : m.schema.write m.value with
  | ok bs => rfl
  | error err =>
    have hmem : m.schema ∈ Samples.all := List.mem_append_left _ h
    obtain ⟨-, w, heq, -⟩ := (Samples.write_eq_error_iff hmem).mp hwrite
    have hscores : Samples.scores ∉ bindings.map Prod.snd := by decide
    rw [congrArg Message.schema (show m = ⟨Samples.scores, w⟩ from heq)] at h
    exact absurd h hscores

theorem read_payload {m : Message} (h : m.schema ∈ bindings.map Prod.snd) (hfits : m.Fits) :
    m.schema.read (payload m) = .ok m.value :=
  Schema.read_of_write (Samples.isLegible_of_mem (List.mem_append_left _ h)) hfits (write_eq h)

theorem fits_ping (v : ping.Value) : Message.Fits ⟨ping, v⟩ :=
  fun _ => ⟨trivial, trivial, trivial⟩

theorem fits_pongFor (v : ping.Value) : (pongFor v).Fits :=
  fun _ => ⟨trivial, trivial, trivial⟩

theorem fits_noticeOf (text : String) : (noticeOf text).Fits :=
  fun h => nomatch h

theorem fits_echoOf {data : Bytes} (h : data.length ≤ Framing.largestLength) :
    (echoOf data).Fits := by
  have hcapacity : Framing.largestLength < Bytes.capacity 8 := by decide
  have hlength : Binary.FitsLength (data.map UInt8.toBitVec).length := by
    rw [List.length_map]
    exact Nat.lt_of_le_of_lt h hcapacity
  exact fun _ => ⟨⟨hlength, fun _ _ => trivial⟩, trivial⟩

theorem length_ping (seq : UInt32) (time : UInt64) : (payload (pingOf seq time)).length = 12 :=
  rfl

theorem length_pong (v : ping.Value) : (payload (pongFor v)).length = 12 :=
  rfl

theorem length_echo (data : Bytes) : (payload (echoOf data)).length = data.length + 8 := by
  have hbytes (bs : List Shape.u8.Val) : (bs.flatMap Shape.u8.toBinary).length = bs.length := by
    induction bs with
    | nil => rfl
    | cons b bs ih =>
      rw [List.flatMap_cons, List.length_append, ih, List.length_cons, Nat.add_comm]
      rfl
  have hpayload (bs : List Shape.u8.Val) : (payload ⟨echo, (bs, ())⟩).length = bs.length + 8 := by
    show ((Binary.lengthBytes bs.length ++ bs.flatMap Shape.u8.toBinary) ++ []).length = _
    rw [List.append_nil, List.length_append, hbytes, Nat.add_comm]
    rfl
  exact (hpayload (data.map UInt8.toBitVec)).trans (congrArg (· + 8) (List.length_map _))

theorem echoData_echoOf (data : Bytes) : echoData (echoOf data).value = data := by
  show (data.map UInt8.toBitVec).map UInt8.ofBitVec = data
  rw [List.map_map]
  exact List.map_id data

theorem ping_mem : ping ∈ bindings.map Prod.snd :=
  .head _

theorem pong_mem : pong ∈ bindings.map Prod.snd :=
  .tail _ (.head _)

theorem echo_mem : echo ∈ bindings.map Prod.snd :=
  .tail _ (.tail _ (.head _))

theorem notice_mem : notice ∈ bindings.map Prod.snd :=
  .tail _ (.tail _ (.tail _ (.head _)))

end Builtin

/-! ## Registered messages -/

namespace Processor

variable {P : Type} {p : Processor P} {order : ByteOrder} {e : Entry P}

section

variable (hvalid : p.registry.Valid) (horder : p.byteOrder = order) (he : e ∈ p.registry.entries)
include hvalid horder he

/-- A message that is registered is encoded under its identifier. -/
theorem encode_of_mem {v : e.schema.Value}
    (hwrite : e.schema.write v = .ok (Builtin.payload ⟨e.schema, v⟩)) :
    p.encode ⟨e.schema, v⟩ = .ok (Builtin.frame order e.id ⟨e.schema, v⟩) := by
  rw [Builtin.frame, ← horder]
  exact encode_of_write (hvalid.lookup?_eq_some_iff.mpr ⟨he, rfl⟩) hwrite

theorem byId?_of_mem : p.registry.byId? (p.byteOrder.decode16 (order.encode16 e.id)) = some e := by
  rw [horder, ByteOrder.decode16_encode16]
  exact hvalid.byId?_eq_some_iff.mpr ⟨he, rfl⟩

/-- Its frame is decoded again. -/
theorem decode_of_mem (hraw : e.rawHandler = none) {v : e.schema.Value}
    (hread : e.schema.read (Builtin.payload ⟨e.schema, v⟩) = .ok v) :
    p.decode (Builtin.frame order e.id ⟨e.schema, v⟩).toBytes = .ok (.message ⟨e.schema, v⟩) :=
  Codec.decode_eq_ok_iff.mpr
    ⟨_, e, rfl, byId?_of_mem hvalid horder he, .inr ⟨hraw, v, hread, rfl⟩⟩

/-- It is handed on as it is if its identifier has a raw handler. -/
theorem decode_raw_of_mem (hraw : e.rawHandler.isSome) (m : Message) :
    p.decode (Builtin.frame order e.id m).toBytes = .ok (.raw ⟨e.id, Builtin.payload m⟩) := by
  have hid : p.byteOrder.decode16 (order.encode16 e.id) = e.id := by
    rw [horder, ByteOrder.decode16_encode16]
  have hdecode : p.decode (Builtin.frame order e.id m).toBytes =
      .ok (.raw ⟨p.byteOrder.decode16 (order.encode16 e.id), Builtin.payload m⟩) :=
    Codec.decode_eq_ok_iff.mpr ⟨_, e, rfl, byId?_of_mem hvalid horder he, .inl ⟨hraw, rfl⟩⟩
  rw [hdecode, hid]

end

end Processor

/-! ## What a server answers -/

section

variable (order : ByteOrder) (router : Bool) (f : Framing) (context : C)

theorem mem_serverProcessor {e : Entry Responder} (he : e ∈ ServerEntry.all router) :
    e ∈ (serverProcessor order router).registry.entries := by
  rw [entries_serverProcessor]
  exact he

/-- The bytes of a reply that is a message. -/
theorem outboundBytes_serverProcessor {e : Entry Responder} (he : e ∈ ServerEntry.all router)
    {v : e.schema.Value} (hwrite : e.schema.write v = .ok (Builtin.payload ⟨e.schema, v⟩)) :
    (serverProcessor order router).outboundBytes f (.message ⟨e.schema, v⟩) =
      f.frameBytes (Builtin.frame order e.id ⟨e.schema, v⟩).toBytes := by
  have hencode := Processor.encode_of_mem (valid_serverProcessor order router)
    (byteOrder_serverProcessor order router) (mem_serverProcessor order router he) hwrite
  rw [Processor.outboundBytes, Processor.encodeOutbound, hencode]

/-- A ping is answered with its pong. -/
theorem answer_ping (v : Builtin.ping.Value) :
    let frame := Builtin.frame order Builtin.pingId ⟨Builtin.ping, v⟩
    let reply := Builtin.frame order Builtin.pongId (Builtin.pongFor v)
    (serverProcessor order router).answer f context frame.toBytes = f.frameBytes reply.toBytes ∧
      (serverProcessor order router).submissions context frame.toBytes = [] := by
  intro frame reply
  have hread : Builtin.ping.read (Builtin.payload ⟨Builtin.ping, v⟩) = .ok v :=
    Builtin.read_payload (m := ⟨Builtin.ping, v⟩) Builtin.ping_mem (Builtin.fits_ping v)
  have hdecode : (serverProcessor order router).decode frame.toBytes =
      .ok (.message ⟨Builtin.ping, v⟩) :=
    Processor.decode_of_mem (valid_serverProcessor order router)
      (byteOrder_serverProcessor order router)
      (mem_serverProcessor order router (ServerEntry.ping_mem router)) rfl hread
  have hbytes : (serverProcessor order router).outboundBytes f (.message (Builtin.pongFor v)) =
      f.frameBytes reply.toBytes :=
    outboundBytes_serverProcessor order router f (ServerEntry.pong_mem router) (v := v)
      (Builtin.write_eq (m := Builtin.pongFor v) Builtin.pong_mem)
  have hnotice := Message.is_of_ne Builtin.ping_ne_notice v
  obtain ⟨hreplies, hsubmissions⟩ := replies_serverProcessor hdecode context
  constructor
  · rw [Processor.answer, hreplies, serverReplies, Message.as?_self]
    exact (List.flatMap_singleton ..).trans hbytes
  · rw [hsubmissions, serverSubmissions, hnotice, Bool.and_false]
    rfl

/-- An echo is sent back. -/
theorem answer_echo (data : Bytes) :
    let frame := Builtin.frame order Builtin.echoId (Builtin.echoOf data)
    (serverProcessor order router).answer f context frame.toBytes = f.frameBytes frame.toBytes ∧
      (serverProcessor order router).submissions context frame.toBytes = [] := by
  intro frame
  have hdecode : (serverProcessor order router).decode frame.toBytes =
      .ok (.raw ⟨Builtin.echoId, frame.payload⟩) :=
    Processor.decode_raw_of_mem (valid_serverProcessor order router)
      (byteOrder_serverProcessor order router)
      (mem_serverProcessor order router (ServerEntry.echo_mem router)) rfl (Builtin.echoOf data)
  have hencode : (serverProcessor order router).encodeRaw ⟨Builtin.echoId, frame.payload⟩ =
      .ok frame := by
    have hraw := Processor.encodeRaw_of_byId (r := ⟨Builtin.echoId, frame.payload⟩)
      (byId_serverProcessor order (ServerEntry.echo_mem router))
    rw [byteOrder_serverProcessor] at hraw
    exact hraw
  obtain ⟨hreplies, hsubmissions⟩ := replies_serverProcessor hdecode context
  constructor
  · rw [Processor.answer, hreplies, serverReplies, List.flatMap_singleton, Processor.outboundBytes,
      Processor.encodeOutbound, hencode]
  · rw [hsubmissions]
    rfl

/-- A notice goes to the router. -/
theorem answer_notice (text : String) :
    let m := Builtin.noticeOf text
    let frame := Builtin.frame order Builtin.noticeId m
    (serverProcessor order router).answer f context frame.toBytes = [] ∧
      (serverProcessor order router).submissions context frame.toBytes =
        if router then [⟨m.tag, m, context⟩] else [] := by
  intro m frame
  have hread : Builtin.notice.read (Builtin.payload m) = .ok m.value :=
    Builtin.read_payload (m := m) Builtin.notice_mem (Builtin.fits_noticeOf text)
  have hdecode : (serverProcessor order router).decode frame.toBytes = .ok (.message m) :=
    Processor.decode_of_mem (valid_serverProcessor order router)
      (byteOrder_serverProcessor order router)
      (mem_serverProcessor order router (ServerEntry.notice_mem router)) rfl hread
  have hping : m.as? Builtin.ping = none :=
    Message.as?_of_ne Builtin.ping_ne_notice.symm _
  have hnotice : m.is Builtin.notice = true := decide_eq_true rfl
  obtain ⟨hreplies, hsubmissions⟩ := replies_serverProcessor hdecode context
  constructor
  · rw [Processor.answer, hreplies, serverReplies, hping]
    rfl
  · rw [hsubmissions, serverSubmissions, hnotice, Bool.and_true]

end

/-! ## What a pinger understands -/

namespace PingerEntry

def ping : Entry Unit :=
  ⟨Builtin.pingId, Builtin.ping, none, none, none⟩

def pong : Entry Unit :=
  ⟨Builtin.pongId, Builtin.pong, some ⟨Builtin.pong, ()⟩, none, none⟩

def echo : Entry Unit :=
  ⟨Builtin.echoId, Builtin.echo, none, none, none⟩

def notice : Entry Unit :=
  ⟨Builtin.noticeId, Builtin.notice, none, none, none⟩

/-- The entries of a pinger's registry. -/
def all : List (Entry Unit) :=
  [ping, pong, echo, notice]

theorem mem_all_iff {e : Entry Unit} : e ∈ all ↔ e = ping ∨ e = pong ∨ e = echo ∨ e = notice := by
  simp [all]

theorem ping_mem : ping ∈ all :=
  .head _

theorem pong_mem : pong ∈ all :=
  .tail _ (.head _)

theorem echo_mem : echo ∈ all :=
  .tail _ (.tail _ (.head _))

theorem notice_mem : notice ∈ all :=
  .tail _ (.tail _ (.tail _ (.head _)))

/-- The messages of a pinger are the built-in ones. -/
theorem schema_mem {e : Entry Unit} (he : e ∈ all) : e.schema ∈ Builtin.bindings.map Prod.snd := by
  rcases mem_all_iff.mp he with rfl | rfl | rfl | rfl
  · exact Builtin.ping_mem
  · exact Builtin.pong_mem
  · exact Builtin.echo_mem
  · exact Builtin.notice_mem

end PingerEntry

theorem ProcessorBuilder.registry_build {P : Type} (b : ProcessorBuilder P) :
    b.build.registry = b.registry :=
  rfl

namespace Pinger

variable (order : ByteOrder)

theorem entries_processor : (processor order).registry.entries = PingerEntry.all := by
  cases order <;> rfl

theorem byteOrder_processor : (processor order).byteOrder = order := by
  cases order <;> rfl

theorem valid_processor : (processor order).registry.Valid := by
  have hrecords := ProcessorBuilder.records_new.run (steps order)
  rw [processor, ProcessorBuilder.registry_build]
  exact hrecords.valid

theorem mem_processor {e : Entry Unit} (he : e ∈ PingerEntry.all) :
    e ∈ (processor order).registry.entries := by
  rw [entries_processor]
  exact he

/-- A pinger can send every built-in message. -/
theorem encode_processor {e : Entry Unit} (he : e ∈ PingerEntry.all) (v : e.schema.Value) :
    (processor order).encode ⟨e.schema, v⟩ = .ok (Builtin.frame order e.id ⟨e.schema, v⟩) := by
  have hwrite := Builtin.write_eq (m := ⟨e.schema, v⟩) (PingerEntry.schema_mem he)
  exact Processor.encode_of_mem (valid_processor order) (byteOrder_processor order)
    (mem_processor order he) hwrite

/-- A pinger understands every built-in message. -/
theorem decode_processor {e : Entry Unit} (he : e ∈ PingerEntry.all) {v : e.schema.Value}
    (hfits : Message.Fits ⟨e.schema, v⟩) :
    (processor order).decode (Builtin.frame order e.id ⟨e.schema, v⟩).toBytes =
      .ok (.message ⟨e.schema, v⟩) := by
  have hraw : e.rawHandler = none := by
    rcases PingerEntry.mem_all_iff.mp he with rfl | rfl | rfl | rfl <;> rfl
  have hread := Builtin.read_payload (m := ⟨e.schema, v⟩) (PingerEntry.schema_mem he) hfits
  exact Processor.decode_of_mem (valid_processor order) (byteOrder_processor order)
    (mem_processor order he) hraw hread

theorem route_processor {e : Entry Unit} (he : e ∈ PingerEntry.all) (v : e.schema.Value) :
    (processor order).route (.message ⟨e.schema, v⟩) () =
      .ok ((e.handler.map fun h => Call.handler h.party ⟨e.schema, v⟩ ()).toList ++
        (e.router.map fun p => Call.router p ⟨e.schema.tag, ⟨e.schema, v⟩, ()⟩).toList) := by
  have hmem := mem_processor order he
  have hlookup : (processor order).registry.lookup? ⟨e.schema, v⟩ = some e :=
    (valid_processor order).lookup?_eq_some_iff.mpr ⟨hmem, rfl⟩
  have haccepts := (valid_processor order).accepts e hmem
  exact Processor.route_message hlookup haccepts ()

/-- A pong goes to the handler of pongs. -/
theorem route_pong (v : Builtin.pong.Value) :
    (processor order).route (.message ⟨Builtin.pong, v⟩) () =
      .ok [.handler () ⟨Builtin.pong, v⟩ ()] :=
  route_processor order PingerEntry.pong_mem v

end Pinger

end Switchboard
