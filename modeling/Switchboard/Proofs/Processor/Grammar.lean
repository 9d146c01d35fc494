import Switchboard.Proofs.Payload.Grammar
import Switchboard.Proofs.Processor.Passthrough

/-!
# Which payloads are decoded

Under an identifier that is bound to a binary type without maps, and has no raw handler, a codec
decodes the payloads that begin with that of a value. It gives this value whatever follows, refuses
everything else as a fault of the format, and so refuses what is cut off at any place.
-/

namespace Switchboard

variable {P : Type}

/-- What a payload is decoded to that arrives under an identifier. -/
def Codec.decodeUnder (c : Codec P) (id : MessageId) (payload : Bytes) : Except CodecError Decoded :=
  c.decode (Frame.mk (c.byteOrder.encode16 id) payload).toBytes

namespace ProcessorBuilder

/-- The payloads that a codec decodes under an identifier are those of a type, told by what it
writes. -/
structure DecodesExactly (c : Codec P) (id : MessageId) (s : Schema) : Prop where
  decoded_iff : ∀ (p : Bytes) (d : Decoded),
    c.decodeUnder id p = .ok d ↔ ∃ v : s.Value, d = .message ⟨s, v⟩ ∧ s.Begins v p
  unique : ∀ (p : Bytes) (v w : s.Value), s.Begins v p → s.Begins w p → v = w
  refused_iff : ∀ p : Bytes,
    (∃ fault, c.decodeUnder id p = .error (.payload (.binary fault))) ↔ ∀ v, ¬ s.Begins v p
  /-- Nothing is to be said about lengths where the items of lists take bytes. -/
  plain : s.shape.isMeasured = true → ∀ (p : Bytes) (v : s.Value), p.length < Bytes.capacity 8 →
    (s.Begins v p ↔ ∃ bs, s.write v = .ok bs ∧ bs <+: p)
  /-- What follows a whole payload makes no difference. -/
  whole : ∀ (v : s.Value) (frame : Frame), s.shape.Fits v → c.encode ⟨s, v⟩ = .ok frame →
    ∀ more, c.decodeUnder id (frame.payload ++ more) = .ok (.message ⟨s, v⟩)
  /-- Nothing less than a whole payload will do. -/
  cut : ∀ (v : s.Value) (frame : Frame), s.shape.Fits v → c.encode ⟨s, v⟩ = .ok frame →
    ∀ p, p <+: frame.payload → p ≠ frame.payload →
      ∃ fault, c.decodeUnder id p = .error (.payload (.binary fault))
  trailing : ∀ (p more : Bytes) (d : Decoded), c.decodeUnder id p = .ok d →
    c.decodeUnder id (p ++ more) = .ok d

variable {b : ProcessorBuilder P} {done : List (ConfigStep P)}

theorem Records.decodesExactly (h : Records done b) (order : ByteOrder) {id : MessageId}
    {s : Schema} (hformat : s.format = .binary) (hmapless : s.shape.isMapless = true)
    (hst : .register id s ∈ done) (hunhandled : ∀ p, .setRawHandler id p ∉ done) :
    DecodesExactly ⟨b.registry, order⟩ id s := by
  let c : Codec P := ⟨b.registry, order⟩
  have hdecode (p : Bytes) := h.decode_unhandled order hst hunhandled p
  have hdecoded (p : Bytes) (d : Decoded) :
      c.decodeUnder id p = .ok d ↔ ∃ v : s.Value, d = .message ⟨s, v⟩ ∧ s.Begins v p := by
    simp only [← Schema.read_eq_ok_iff_begins hformat hmapless]
    rw [Codec.decodeUnder, hdecode]
    rcases s.read p with err | v
    · simp
    · simp [eq_comm]
  have hrefused (p : Bytes) :
      (∃ fault, c.decodeUnder id p = .error (.payload (.binary fault))) ↔
        ∀ v, ¬ s.Begins v p := by
    simp only [← Schema.read_eq_ok_iff_begins hformat hmapless]
    rw [Codec.decodeUnder, hdecode, ← Schema.exists_fault_iff hformat]
    rcases s.read p with err | v
    · simp
    · simp
  -- The frame of a value has its payload, and that payload begins with itself.
  have hbegins {v : s.Value} {frame : Frame} (hfits : s.shape.Fits v)
      (hencode : c.encode ⟨s, v⟩ = .ok frame) :
      s.write v = .ok frame.payload ∧ s.Begins v frame.payload := by
    obtain ⟨payload, hwrite, rfl⟩ :=
      (h.encode_eq_ok_iff (m := ⟨s, v⟩) hst).mp hencode
    exact ⟨hwrite, hfits, payload, hwrite, List.prefix_rfl⟩
  refine ⟨hdecoded, ?_, hrefused, ?_, ?_, ?_, ?_⟩
  · intro p v w hv hw
    exact Schema.begins_unique hformat hmapless hv hw
  · intro hmeasured p v hlength
    exact Schema.begins_of_short hformat hmeasured hlength
  · intro v frame hfits hencode more
    exact (hdecoded _ _).mpr ⟨v, rfl, (hbegins hfits hencode).2.append more⟩
  · intro v frame hfits hencode p hprefix hne
    apply (hrefused p).mpr
    intro w hw
    -- A value at the front of a part is at the front of the whole, so it is the one that was written.
    obtain ⟨hwrite, hwhole⟩ := hbegins hfits hencode
    obtain ⟨rest, hrest⟩ := hprefix
    have hagain := hw.append rest
    rw [hrest] at hagain
    have hsame := Schema.begins_unique hformat hmapless hagain hwhole
    subst hsame
    obtain ⟨-, bs, hbs, hfront⟩ := hw
    rw [hwrite] at hbs
    cases hbs
    exact hne (List.IsPrefix.eq_of_length_le ⟨rest, hrest⟩ hfront.length_le)
  · intro p more d hd
    obtain ⟨v, rfl, hv⟩ := (hdecoded p d).mp hd
    exact (hdecoded _ _).mpr ⟨v, rfl, hv.append more⟩

/-- After any configuration and in both byte orders: a payload under the identifier of a binary type
without maps is decoded to a value exactly if it begins with the payload of this value. There is one
such value at most, and if there is none the payload is refused. -/
theorem decodesExactly_of_run (steps : List (ConfigStep P)) (order : ByteOrder) {id : MessageId}
    {s : Schema} (hformat : s.format = .binary) (hmapless : s.shape.isMapless = true)
    (hst : .register id s ∈ new.accepted steps)
    (hunhandled : ∀ p, .setRawHandler id p ∉ new.accepted steps) :
    DecodesExactly ⟨(new.run steps).registry, order⟩ id s :=
  (records_new.run steps).decodesExactly order hformat hmapless hst hunhandled

/-- A login beside a type with a raw handler. -/
theorem decodesExactly_of_login :
    let steps : List (ConfigStep Unit) :=
      [.register 5 Samples.login, .register 6 Builtin.echo, .setRawHandler 6 ()]
    Samples.login.format = .binary ∧ Samples.login.shape.isMapless = true ∧
      .register 5 Samples.login ∈ new.accepted steps ∧
      (∀ p, .setRawHandler 5 p ∉ new.accepted steps) ∧
      DecodesExactly ⟨(new.run steps).registry, .little⟩ 5 Samples.login := by
  intro steps
  have hdone : new.accepted steps = steps := rfl
  have hst : .register 5 Samples.login ∈ new.accepted steps := .head _
  have hunhandled : ∀ p, .setRawHandler 5 p ∉ new.accepted steps := by
    intro p
    rw [hdone]
    simp [steps]
  exact ⟨rfl, rfl, hst, hunhandled, decodesExactly_of_run steps .little rfl rfl hst hunhandled⟩

/-- The binary types in use are such, but for one with a map; and the lengths in their payloads are
bounded by them. -/
example : (Samples.all.filter fun s => s.format = .binary ∧ s.shape.isMapless ∧
    s.shape.isMeasured) = [Builtin.ping, Builtin.pong, Builtin.echo, Samples.chatImpostor,
      Samples.shoot, Samples.move, Samples.login, Samples.stray, Samples.untagged,
      Samples.unknown] := by
  rfl

end ProcessorBuilder

end Switchboard
