import Switchboard.Proofs.Processor.RoundTrip

/-!
# Payloads that are handed on

Under an identifier with a raw handler a payload is not read, and can be put back into the frame that
it came in. Decoding asks for the handler and encoding for an entry only, so what is refused differs;
but a frame that is left undecoded comes back byte for byte, and so does whatever a raw handler gets.
-/

namespace Switchboard

variable {P : Type}

namespace Codec

variable {c : Codec P} {r : RawMessage}

theorem decode_of_handled {frame : Frame} {e : Entry P}
    (he : c.registry.byId? (c.byteOrder.decode16 frame.header) = some e)
    (hraw : e.rawHandler.isSome) :
    c.decode frame.toBytes = .ok (.raw ⟨c.byteOrder.decode16 frame.header, frame.payload⟩) :=
  decode_eq_ok_iff.mpr ⟨frame, e, rfl, he, .inl ⟨hraw, rfl⟩⟩

/-- What is left undecoded is a frame as encoding would make it, and there is a raw handler. -/
theorem decode_eq_raw_iff {bytes : Bytes} :
    c.decode bytes = .ok (.raw r) ↔
      (∃ e, c.registry.byId? r.id = some e ∧ e.rawHandler.isSome) ∧
        bytes = (Frame.mk (c.byteOrder.encode16 r.id) r.payload).toBytes := by
  constructor
  · intro h
    obtain ⟨frame, e, rfl, he, hcase⟩ := decode_eq_ok_iff.mp h
    rcases hcase with ⟨hraw, heq⟩ | ⟨-, v, -, heq⟩
    · cases heq
      refine ⟨⟨e, he, hraw⟩, ?_⟩
      rw [c.byteOrder.encode16_decode16]
    · cases heq
  · rintro ⟨⟨e, he, hraw⟩, rfl⟩
    have hid : c.byteOrder.decode16 (c.byteOrder.encode16 r.id) = r.id :=
      c.byteOrder.decode16_encode16 r.id
    rw [decode_of_handled (e := e) (by rw [hid]; exact he) hraw, hid]

theorem encodeRaw_eq_error_iff {err : CodecError} :
    c.encodeRaw r = .error err ↔ err = .unknownId r.id ∧ c.registry.byId? r.id = none := by
  rcases he : c.registry.byId? r.id with _ | e
  · simp [encodeRaw, he, eq_comm]
  · simp [encodeRaw, he]

/-- A payload is read only where there is no raw handler. -/
theorem unhandled_of_decode_payload {bytes : Bytes} {err : PayloadError}
    (h : c.decode bytes = .error (.payload err)) :
    ∃ frame : Frame, bytes = frame.toBytes ∧ ∀ e,
      c.registry.byId? (c.byteOrder.decode16 frame.header) = some e → ¬ e.rawHandler.isSome := by
  rcases bytes with _ | ⟨a, _ | ⟨b, payload⟩⟩
  · cases h
  · cases h
  · refine ⟨⟨(a, b), payload⟩, rfl, ?_⟩
    intro e he hraw
    have hok : c.decode (Frame.mk (a, b) payload).toBytes = _ := decode_of_handled he hraw
    exact absurd (hok.symm.trans h) nofun

end Codec

namespace ProcessorBuilder

variable {b : ProcessorBuilder P} {done : List (ConfigStep P)}

/-! ## Raw handlers and the steps that attached them -/

theorem isSome_rawHandler_iff {id : MessageId} :
    (lastAttached done (.rawHandler id)).isSome ↔ ∃ p, .setRawHandler id p ∈ done := by
  constructor
  · intro h
    obtain ⟨p, hp⟩ := Option.isSome_iff_exists.mp h
    obtain ⟨st, hst, hat⟩ := List.mem_filterMap.mp (List.mem_of_getLast? hp)
    refine ⟨p, ?_⟩
    cases st with
    | setRawHandler other q =>
      by_cases hid : other = id
      · subst hid
        have hq : some q = some p := (if_pos rfl).symm.trans hat
        cases hq
        exact hst
      · simp [attachedAt, ConfigStep.attachment, hid] at hat
    | _ => simp [attachedAt, ConfigStep.attachment] at hat
  · rintro ⟨p, hp⟩
    apply List.getLast?_isSome.mpr
    apply List.ne_nil_of_mem (a := p)
    exact List.mem_filterMap.mpr ⟨_, hp, if_pos rfl⟩

theorem Records.handled_iff (h : Records done b) {id : MessageId} :
    (∃ e, b.registry.byId? id = some e ∧ e.rawHandler.isSome) ↔
      ∃ p, .setRawHandler id p ∈ done := by
  rw [← isSome_rawHandler_iff]
  constructor
  · rintro ⟨e, he, hraw⟩
    obtain ⟨-, hrec⟩ := h.byId?_eq_some_iff.mp he
    rw [hrec] at hraw
    exact hraw
  · intro hraw
    -- The handler could only be attached to an entry, and that entry is still there.
    obtain ⟨p, hp⟩ := Option.isSome_iff_exists.mp hraw
    obtain ⟨e, he, hof⟩ := h.seated _ p hp
    have hid : e.id = id := hof
    subst hid
    have hfound := h.valid.byId?_eq_some_iff.mpr ⟨he, rfl⟩
    refine ⟨e, hfound, ?_⟩
    obtain ⟨-, hrec⟩ := h.byId?_eq_some_iff.mp hfound
    rw [hrec]
    exact hraw

/-- Without a raw handler a payload is read as the format of its type has it. -/
theorem Records.decode_unhandled (h : Records done b) (order : ByteOrder) {id : MessageId}
    {s : Schema} (hst : .register id s ∈ done) (hunhandled : ∀ p, .setRawHandler id p ∉ done)
    (payload : Bytes) :
    (Codec.mk b.registry order).decode (Frame.mk (order.encode16 id) payload).toBytes =
      match s.read payload with
      | .ok v => .ok (.message ⟨s, v⟩)
      | .error err => .error (.payload err) := by
  have he := h.byId?_header order hst
  have hraw : lastAttached done (.rawHandler id) = none := by
    apply Option.not_isSome_iff_eq_none.mp
    rw [isSome_rawHandler_iff]
    exact not_exists.mpr hunhandled
  rcases hread : s.read payload with err | v
  · exact Codec.decode_of_misread he hraw hread
  · exact Codec.decode_eq_ok_iff.mpr ⟨_, _, rfl, he, .inr ⟨hraw, v, hread, rfl⟩⟩

/-! ## Through the codec and back -/

/-- What a codec leaves undecoded and what it puts back, told from the steps of configuration that
succeeded. -/
structure Passthrough (done : List (ConfigStep P)) (c : Codec P) : Prop where
  raw_iff : ∀ (bytes : Bytes) (r : RawMessage), c.decode bytes = .ok (.raw r) ↔
    (∃ p, .setRawHandler r.id p ∈ done) ∧
      bytes = (Frame.mk (c.byteOrder.encode16 r.id) r.payload).toBytes
  handed_on : ∀ frame : Frame, (∃ p, .setRawHandler (c.byteOrder.decode16 frame.header) p ∈ done) →
    c.decode frame.toBytes = .ok (.raw ⟨c.byteOrder.decode16 frame.header, frame.payload⟩)
  /-- Where there is a raw handler nothing is read, so nothing can be wrong with a payload. -/
  misread : ∀ (bytes : Bytes) (err : PayloadError), c.decode bytes = .error (.payload err) →
    ∃ frame : Frame, bytes = frame.toBytes ∧
      ∀ p, .setRawHandler (c.byteOrder.decode16 frame.header) p ∉ done
  /-- The frame comes back byte for byte, and its identifier does not depend on its payload. -/
  returned : ∀ (bytes : Bytes) (r : RawMessage), c.decode bytes = .ok (.raw r) →
    ∃ frame, c.encodeRaw r = .ok frame ∧ frame.toBytes = bytes ∧
      r = ⟨c.byteOrder.decode16 frame.header, frame.payload⟩ ∧
      ∀ payload, c.decode (Frame.mk frame.header payload).toBytes = .ok (.raw ⟨r.id, payload⟩)
  /-- So does whatever is for a raw handler. -/
  restored : ∀ r : RawMessage, (∃ p, .setRawHandler r.id p ∈ done) →
    ∃ frame, c.encodeRaw r = .ok frame ∧ c.decode frame.toBytes = .ok (.raw r)
  refused : ∀ (r : RawMessage) (err : CodecError), c.encodeRaw r = .error err ↔
    err = .unknownId r.id ∧ ∀ s, .register r.id s ∉ done
  /-- An identifier that is not bound is refused in both directions. -/
  unknown : ∀ frame : Frame, (∀ s, .register (c.byteOrder.decode16 frame.header) s ∉ done) →
    c.decode frame.toBytes = .error (.unknownId (c.byteOrder.decode16 frame.header))

theorem Records.decode_eq_raw_iff (h : Records done b) {order : ByteOrder} {bytes : Bytes}
    {r : RawMessage} : (Codec.mk b.registry order).decode bytes = .ok (.raw r) ↔
      (∃ p, .setRawHandler r.id p ∈ done) ∧
        bytes = (Frame.mk (order.encode16 r.id) r.payload).toBytes :=
  Codec.decode_eq_raw_iff.trans (and_congr_left' h.handled_iff)

theorem Records.passthrough (h : Records done b) (order : ByteOrder) :
    Passthrough done ⟨b.registry, order⟩ where
  raw_iff := by
    intro bytes r
    exact h.decode_eq_raw_iff
  handed_on := by
    intro frame hhandled
    obtain ⟨e, he, hraw⟩ := h.handled_iff.mpr hhandled
    exact Codec.decode_of_handled he hraw
  misread := by
    intro bytes err herr
    obtain ⟨frame, hbytes, hunhandled⟩ := Codec.unhandled_of_decode_payload herr
    refine ⟨frame, hbytes, ?_⟩
    intro p hp
    obtain ⟨e, he, hraw⟩ := h.handled_iff.mpr ⟨p, hp⟩
    exact hunhandled e he hraw
  returned := by
    intro bytes r hdecode
    obtain ⟨hhandled, rfl⟩ := h.decode_eq_raw_iff.mp hdecode
    obtain ⟨e, he, -⟩ := h.handled_iff.mpr hhandled
    refine ⟨_, Codec.encodeRaw_of_byId he, rfl, ?_, ?_⟩
    · dsimp only
      rw [order.decode16_encode16]
    · intro payload
      exact h.decode_eq_raw_iff.mpr ⟨hhandled, rfl⟩
  restored := by
    intro r hhandled
    obtain ⟨e, he, -⟩ := h.handled_iff.mpr hhandled
    exact ⟨_, Codec.encodeRaw_of_byId he, h.decode_eq_raw_iff.mpr ⟨hhandled, rfl⟩⟩
  refused := by
    intro r err
    rw [Codec.encodeRaw_eq_error_iff]
    exact and_congr_right' h.byId?_eq_none_iff
  unknown := by
    intro frame hunbound
    exact Codec.decode_of_unknown rfl (h.byId?_eq_none_iff.mpr hunbound)

/-- After any configuration and in both byte orders: the frames that are left undecoded are those
under an identifier with a raw handler, with any payload at all. Each of them comes back as it was,
and so does each payload for a raw handler. What has no identifier that is bound is refused. -/
theorem passthrough_of_run (steps : List (ConfigStep P)) (order : ByteOrder) :
    Passthrough (new.accepted steps) ⟨(new.run steps).registry, order⟩ :=
  (records_new.run steps).passthrough order

/-- No login is that short, and the raw handler gets it all the same. -/
example :
    let b := new.run [.register 5 Samples.login, .setRawHandler 5 "raw"]
    let c : Codec String := ⟨b.registry, .little⟩
    (Samples.login.read [9]).toOption = none ∧ c.decode [5, 0, 9] = .ok (.raw ⟨5, [9]⟩) ∧
      (c.encodeRaw ⟨5, [9]⟩).map Frame.toBytes = .ok [5, 0, 9] :=
  ⟨rfl, rfl, rfl⟩

end ProcessorBuilder

end Switchboard
