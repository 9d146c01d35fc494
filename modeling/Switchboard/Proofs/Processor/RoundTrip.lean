import Switchboard.Proofs.Payload.RoundTrip
import Switchboard.Proofs.Processor.Delivery

/-!
# Round trips

Encoding finds an entry by the type of a message, decoding finds one by the identifier of a frame.
In a registry that was configured step by step both find the same one, so what comes back depends on
the payload alone.
-/

namespace Switchboard

variable {P : Type}

namespace Codec

variable {c : Codec P}

/-- The frame of a message whose entry is found: the identifier and the payload of its value. -/
theorem encode_of_lookup {e : Entry P} {v : e.schema.Value}
    (he : c.registry.lookup? ⟨e.schema, v⟩ = some e) :
    c.encode ⟨e.schema, v⟩ =
      match e.schema.write v with
      | .ok payload => .ok ⟨c.byteOrder.encode16 e.id, payload⟩
      | .error err => .error (.payload err) := by
  rw [encode, he]
  dsimp only
  rw [Entry.encodePayload?, Message.as?_self, Option.map_some]
  rcases e.schema.write v with err | payload <;> rfl

theorem encodeRaw_of_byId {r : RawMessage} {e : Entry P} (he : c.registry.byId? r.id = some e) :
    c.encodeRaw r = .ok ⟨c.byteOrder.encode16 r.id, r.payload⟩ := by
  rw [encodeRaw, he]

end Codec

namespace Processor

variable {p : Processor P}

theorem encode_of_write {e : Entry P} {v : e.schema.Value} {payload : Bytes}
    (he : p.registry.lookup? ⟨e.schema, v⟩ = some e) (hwrite : e.schema.write v = .ok payload) :
    p.encode ⟨e.schema, v⟩ = .ok ⟨p.byteOrder.encode16 e.id, payload⟩ := by
  rw [encode, Codec.encode_of_lookup he, hwrite]
  rfl

theorem encodeRaw_of_byId {r : RawMessage} {e : Entry P} (he : p.registry.byId? r.id = some e) :
    p.encodeRaw r = .ok ⟨p.byteOrder.encode16 r.id, r.payload⟩ :=
  Codec.encodeRaw_of_byId (c := p.codec) he

end Processor

/-- Whether the lengths within a message fit its format. They always do when it is held in memory:
binary writes them on eight bytes, and JSON writes none. -/
def Message.Fits (m : Message) : Prop :=
  m.schema.format = .binary → m.schema.shape.Fits m.value

namespace ProcessorBuilder

variable {b : ProcessorBuilder P} {done : List (ConfigStep P)}

/-- What a frame with a message in it is decoded to, told from the steps of configuration that
succeeded. -/
def carried (done : List (ConfigStep P)) (id : MessageId) (m : Message) (payload : Bytes) :
    Decoded :=
  match lastAttached done (.rawHandler id) with
  | none => .message m
  | some _ => .raw ⟨id, payload⟩

/-- A message that is bound to an identifier goes through a codec and comes back. -/
structure RoundTrip (done : List (ConfigStep P)) (c : Codec P) (id : MessageId) (m : Message) :
    Prop where
  header {frame : Frame} (h : c.encode m = .ok frame) : c.byteOrder.decode16 frame.header = id
  decode {frame : Frame} (h : c.encode m = .ok frame) :
    c.decode frame.toBytes = .ok (carried done id m frame.payload)
  /-- Scores under pairs cannot be written, and everything else can. -/
  refused {err : CodecError} : c.encode m = .error err ↔
    err = .payload .jsonKey ∧
      ∃ w : Samples.scores.Value, m = ⟨Samples.scores, w⟩ ∧ w.1.entries ≠ []

/-- The entry that encoding finds is the recorded one. -/
theorem Records.encode_eq (h : Records done b) (order : ByteOrder) {id : MessageId} {m : Message}
    (hst : .register id m.schema ∈ done) :
    (Codec.mk b.registry order).encode m =
      match m.schema.write m.value with
      | .ok payload => .ok ⟨order.encode16 id, payload⟩
      | .error err => .error (.payload err) :=
  Codec.encode_of_lookup (c := ⟨b.registry, order⟩) (e := recordedEntry done (id, m.schema))
    (v := m.value) (h.lookup?_of_registered hst)

theorem Records.encode_eq_ok_iff (h : Records done b) {order : ByteOrder} {id : MessageId}
    {m : Message} (hst : .register id m.schema ∈ done) {frame : Frame} :
    (Codec.mk b.registry order).encode m = .ok frame ↔
      ∃ payload, m.schema.write m.value = .ok payload ∧ ⟨order.encode16 id, payload⟩ = frame := by
  rw [h.encode_eq order hst]
  rcases m.schema.write m.value with err | payload <;> simp

theorem Records.encode_eq_error_iff (h : Records done b) {order : ByteOrder} {id : MessageId}
    {m : Message} (hst : .register id m.schema ∈ done) {err : CodecError} :
    (Codec.mk b.registry order).encode m = .error err ↔
      ∃ e, m.schema.write m.value = .error e ∧ .payload e = err := by
  rw [h.encode_eq order hst]
  rcases m.schema.write m.value with e | payload <;> simp

theorem Records.byId?_header (h : Records done b) (order : ByteOrder) {id : MessageId}
    {s : Schema} (hst : .register id s ∈ done) :
    b.registry.byId? (order.decode16 (order.encode16 id)) =
      some (recordedEntry done (id, s)) := by
  rw [order.decode16_encode16]
  exact h.byId?_eq_some_iff.mpr ⟨hst, rfl⟩

/-- The entry that decoding finds is the recorded one, too. -/
theorem Records.decode_eq (h : Records done b) (order : ByteOrder) {id : MessageId} {m : Message}
    (hst : .register id m.schema ∈ done) {payload : Bytes}
    (hread : m.schema.read payload = .ok m.value) :
    (Codec.mk b.registry order).decode (Frame.mk (order.encode16 id) payload).toBytes =
      .ok (carried done id m payload) := by
  have he := h.byId?_header order hst
  refine Codec.decode_eq_ok_iff.mpr ⟨_, _, rfl, he, ?_⟩
  unfold carried
  rcases hraw : lastAttached done (.rawHandler id) with _ | p
  · exact .inr ⟨hraw, m.value, hread, rfl⟩
  · refine .inl ⟨Option.isSome_of_eq_some hraw, ?_⟩
    dsimp only
    rw [order.decode16_encode16]

theorem Records.roundTrip (h : Records done b) (order : ByteOrder) {id : MessageId} {m : Message}
    (hcovered : m.schema ∈ Samples.all) (hst : .register id m.schema ∈ done) (hfits : m.Fits) :
    RoundTrip done ⟨b.registry, order⟩ id m where
  header := by
    intro frame hframe
    obtain ⟨payload, -, rfl⟩ := (h.encode_eq_ok_iff hst).mp hframe
    exact order.decode16_encode16 id
  decode := by
    intro frame hframe
    obtain ⟨payload, hwrite, rfl⟩ := (h.encode_eq_ok_iff hst).mp hframe
    exact h.decode_eq order hst
      (Schema.read_of_write (Samples.isLegible_of_mem hcovered) hfits hwrite)
  refused := by
    intro err
    rw [h.encode_eq_error_iff hst]
    constructor
    · rintro ⟨e, hwrite, rfl⟩
      obtain ⟨rfl, hscores⟩ := (Samples.write_eq_error_iff hcovered).mp hwrite
      exact ⟨rfl, hscores⟩
    · rintro ⟨rfl, hscores⟩
      exact ⟨_, (Samples.write_eq_error_iff hcovered).mpr ⟨rfl, hscores⟩, rfl⟩

/-- A message that came out of some bytes has a frame of its own, perhaps another one. -/
theorem Records.encode_of_decode (h : Records done b) {order : ByteOrder} {bytes : Bytes}
    {m : Message} (hcovered : m.schema ∈ Samples.all)
    (hdecode : (Codec.mk b.registry order).decode bytes = .ok (.message m)) :
    ∃ frame, (Codec.mk b.registry order).encode m = .ok frame ∧
      (Codec.mk b.registry order).decode frame.toBytes = .ok (.message m) := by
  obtain ⟨arrived, e, -, he, hcase⟩ := Codec.decode_eq_ok_iff.mp hdecode
  obtain ⟨hst, hrec⟩ := h.byId?_eq_some_iff.mp he
  rcases hcase with ⟨-, hm⟩ | ⟨hraw, v, hv, hm⟩
  · cases hm
  · cases hm
    obtain ⟨payload, hwrite⟩ := Schema.exists_write_of_read hv
    have hread := Schema.read_of_write (Samples.isLegible_of_mem hcovered)
      (fun hformat => Schema.fits_of_read hformat hv) hwrite
    have hback := h.decode_eq order (m := ⟨e.schema, v⟩) hst hread
    refine ⟨_, (h.encode_eq_ok_iff hst).mpr ⟨payload, hwrite, rfl⟩, ?_⟩
    rw [hrec] at hraw
    change lastAttached done (.rawHandler _) = none at hraw
    rw [carried, hraw] at hback
    exact hback

/-- Round trips through the codec of any configuration, in both byte orders. A registered message is
written under its identifier and comes back as it was, or as its payload if the identifier has a raw
handler. A message that was decoded from any bytes at all can be written, is decoded from what is
written, and is then written in the same way. -/
theorem roundTrip_of_run (steps : List (ConfigStep P)) (order : ByteOrder) :
    let done := new.accepted steps
    let c : Codec P := ⟨(new.run steps).registry, order⟩
    (∀ id m, m.schema ∈ Samples.all → .register id m.schema ∈ done → m.Fits →
      RoundTrip done c id m) ∧
    (∀ bytes m, m.schema ∈ Samples.all → c.decode bytes = .ok (.message m) →
      ∃ frame, c.encode m = .ok frame ∧
        ∃ again, c.decode frame.toBytes = .ok (.message again) ∧ again = m ∧
          c.encode again = .ok frame) := by
  intro done c
  have hrec : Records done (new.run steps) := records_new.run steps
  constructor
  · intro id m hcovered hst hfits
    exact hrec.roundTrip order hcovered hst hfits
  · intro bytes m hcovered hdecode
    obtain ⟨frame, hencode, hback⟩ := hrec.encode_of_decode hcovered hdecode
    exact ⟨frame, hencode, m, hback, rfl, hencode⟩

/-- A type in binary, and one in JSON. -/
def bothFormats : List (ConfigStep P) :=
  [.register 5 Samples.login, .register 300 Samples.scores]

/-- Both halves: a login, and scores without any that arrive as a list and leave as an object. -/
theorem roundTrip_of_bothFormats :
    let done : List (ConfigStep Unit) := new.accepted bothFormats
    let c : Codec Unit := ⟨(new.run bothFormats).registry, .little⟩
    let login : Message := ⟨Samples.login, ("Zoë", ())⟩
    let scores : Message := ⟨Samples.scores, (Table.empty, ())⟩
    let bytes : Bytes := 0x2c :: 0x01 :: Bytes.ofAscii "[\x7b \x7d]"
    (login.schema ∈ Samples.all ∧ .register 5 login.schema ∈ done ∧ login.Fits ∧
      RoundTrip done c 5 login) ∧
    (scores.schema ∈ Samples.all ∧ c.decode bytes = .ok (.message scores) ∧
      ∃ frame, c.encode scores = .ok frame ∧
        ∃ again, c.decode frame.toBytes = .ok (.message again) ∧ again = scores ∧
          c.encode again = .ok frame) := by
  intro done c login scores bytes
  have hlogin : login.schema ∈ Samples.all := by decide
  have hst : .register 5 login.schema ∈ done := .head _
  have hlength : Binary.FitsText "Zoë" := by
    unfold Binary.FitsText Binary.FitsLength
    decide
  have hfits : login.Fits := fun _ => ⟨hlength, trivial⟩
  have hscores : scores.schema ∈ Samples.all := by decide
  have hread : scores.schema.read (Bytes.ofAscii "[\x7b \x7d]") = .ok scores.value := rfl
  have hdecode : c.decode bytes = .ok (.message scores) :=
    (records_new.run bothFormats).decode_eq .little (m := scores) (.tail _ (.head _)) hread
  have h := roundTrip_of_run (P := Unit) bothFormats .little
  exact ⟨⟨hlogin, hst, hfits, h.1 5 login hlogin hst hfits⟩,
    hscores, hdecode, h.2 bytes scores hscores hdecode⟩

end ProcessorBuilder

end Switchboard
