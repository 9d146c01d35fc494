import Switchboard.Proofs.Processor.History

/-!
# What is decoded is delivered

Decoding finds an entry by the identifier of a frame, delivering finds one by the type of the
message that was decoded. In a processor that was configured step by step both find the same one,
so whatever is decoded can be delivered, and it goes to the parties that were attached last.
-/

namespace Switchboard

variable {P C : Type}

/-- The calls that a frame makes when it arrives. One that cannot be decoded makes none. -/
def Processor.arrive (p : Processor P) (bytes : Bytes) (context : C) :
    Except DispatchError (List (Call P C)) :=
  match p.decode bytes with
  | .ok d => p.route d context
  | .error _ => .ok []

namespace ProcessorBuilder

/-- What a frame holds and whom it is for, told from the steps of configuration that succeeded. -/
inductive Delivery (done : List (ConfigStep P)) (id : MessageId) (payload : Bytes) (context : C) :
    Decoded → List (Call P C) → Prop
  /-- The raw handler gets the payload as it is, and nobody else gets anything. -/
  | raw {p : P} (attached : lastAttached done (.rawHandler id) = some p) :
      Delivery done id payload context (.raw ⟨id, payload⟩) [.raw p ⟨id, payload⟩ context]
  /-- The local handler is called before the router, each if there is one. -/
  | message {s : Schema} {v : s.Value}
      (unattached : lastAttached done (.rawHandler id) = none)
      (bound : ∀ t, .register id t ∈ done ↔ t = s) (read : s.read payload = .ok v) :
      Delivery done id payload context (.message ⟨s, v⟩)
        (((lastAttached done (.handler s)).map fun p => .handler p ⟨s, v⟩ context).toList ++
          ((lastAttached done (.router s)).map fun p => .router p ⟨s.tag, ⟨s, v⟩, context⟩).toList)

end ProcessorBuilder

/-! ## Decoding and delivering, each by its own entry -/

/-- Only a frame with an identifier that is bound is decoded. -/
theorem Codec.decode_eq_ok_iff {c : Codec P} {bytes : Bytes} {d : Decoded} :
    c.decode bytes = .ok d ↔ ∃ frame : Frame, ∃ e, bytes = frame.toBytes ∧
      c.registry.byId? (c.byteOrder.decode16 frame.header) = some e ∧
        ((e.rawHandler.isSome ∧ d = .raw ⟨c.byteOrder.decode16 frame.header, frame.payload⟩) ∨
          (e.rawHandler = none ∧ ∃ v, e.schema.read frame.payload = .ok v ∧
            d = .message ⟨e.schema, v⟩)) := by
  constructor
  · intro h
    unfold decode at h
    split at h
    · next a b payload =>
      dsimp only at h
      split at h
      · cases h
      · next e he =>
        refine ⟨⟨(a, b), payload⟩, e, rfl, he, ?_⟩
        split at h
        · next hraw =>
          cases h
          exact .inl ⟨hraw, rfl⟩
        · next hraw =>
          refine .inr ⟨Option.not_isSome_iff_eq_none.mp hraw, ?_⟩
          unfold Entry.decodePayload at h
          rcases hv : e.schema.read payload with err | v
          · rw [hv] at h
            cases h
          · rw [hv] at h
            cases h
            exact ⟨v, rfl, rfl⟩
    · cases h
  · rintro ⟨⟨⟨a, b⟩, payload⟩, e, rfl, he, hcase⟩
    dsimp only at he hcase
    unfold decode Frame.toBytes
    dsimp only
    rw [he]
    dsimp only
    rcases hcase with ⟨hraw, rfl⟩ | ⟨hraw, v, hv, rfl⟩
    · rw [if_pos hraw]
    · rw [hraw, Entry.decodePayload, hv]
      rfl

/-- A payload that cannot be read is an error of its own. -/
theorem Codec.decode_of_misread {c : Codec P} {frame : Frame} {e : Entry P} {err : PayloadError}
    (he : c.registry.byId? (c.byteOrder.decode16 frame.header) = some e)
    (hraw : e.rawHandler = none) (hread : e.schema.read frame.payload = .error err) :
    c.decode frame.toBytes = .error (.payload err) := by
  obtain ⟨⟨a, b⟩, payload⟩ := frame
  unfold decode Frame.toBytes
  dsimp only at he hread ⊢
  rw [he]
  dsimp only [Entry.decodePayload]
  rw [hraw, hread]
  rfl

theorem Codec.decode_of_unknown {c : Codec P} {frame : Frame} {id : MessageId}
    (hid : c.byteOrder.decode16 frame.header = id) (h : c.registry.byId? id = none) :
    c.decode frame.toBytes = .error (.unknownId id) := by
  subst hid
  obtain ⟨⟨a, b⟩, payload⟩ := frame
  unfold decode Frame.toBytes
  dsimp only at h ⊢
  rw [h]

theorem Codec.decode_of_short {c : Codec P} {bs : Bytes} (h : bs.length < 2) :
    c.decode bs = .error (.frameTooShort bs.length) := by
  rcases bs with _ | ⟨a, _ | ⟨b, rest⟩⟩
  · rfl
  · rfl
  · rw [List.length_cons, List.length_cons] at h
    omega

theorem Dispatcher.route_raw {d : Dispatcher P} {r : RawMessage} {e : Entry P} {p : P}
    (he : d.registry.byId? r.id = some e) (hp : e.rawHandler = some p) (context : C) :
    d.route (.raw r) context = .ok [.raw p r context] := by
  unfold route
  dsimp only
  rw [he]
  dsimp only
  rw [hp]
  rfl

theorem Handler.calls_of_accepts {h : Handler P} {m : Message} (ha : h.accepts = m.schema)
    (context : C) : h.calls m context = [.handler h.party m context] := by
  refine if_pos ?_
  rw [Message.is, ha]
  exact decide_eq_true rfl

/-- A local handler does not pass over a message of its entry. -/
theorem Dispatcher.route_message {d : Dispatcher P} {m : Message} {e : Entry P}
    (he : d.registry.lookup? m = some e) (hschema : e.schema = m.schema)
    (haccepts : ∀ h, e.handler = some h → h.accepts = m.schema) (context : C) :
    d.route (.message m) context =
      .ok ((e.handler.map fun h => Call.handler h.party m context).toList ++
        (e.router.map fun p => Call.router p ⟨m.tag, m, context⟩).toList) := by
  have htag : e.tag = m.tag := congrArg Schema.tag hschema
  unfold route
  dsimp only
  rw [he]
  dsimp only
  rw [htag]
  rcases hh : e.handler with _ | h
  · rfl
  · dsimp only
    rw [Handler.calls_of_accepts (haccepts h hh)]
    rfl

/-! ## Both find the same entry -/

namespace ProcessorBuilder

variable {b : ProcessorBuilder P} {done : List (ConfigStep P)}

theorem Records.delivery_of_decode (h : Records done b) {bytes : Bytes} {d : Decoded}
    (hd : b.build.decode bytes = .ok d) (context : C) :
    ∃ frame : Frame, ∃ calls, bytes = frame.toBytes ∧ b.build.route d context = .ok calls ∧
      Delivery done (b.byteOrder.decode16 frame.header) frame.payload context d calls := by
  obtain ⟨frame, e, hbytes, he, hcase⟩ := Codec.decode_eq_ok_iff.mp hd
  change b.registry.byId? (b.byteOrder.decode16 frame.header) = some e at he
  obtain ⟨hst, hrec⟩ := h.byId?_eq_some_iff.mp he
  rcases hcase with ⟨hraw, rfl⟩ | ⟨hraw, v, hv, rfl⟩
  · obtain ⟨p, hp⟩ := Option.isSome_iff_exists.mp hraw
    refine ⟨frame, _, hbytes, Dispatcher.route_raw he hp context, ?_⟩
    refine .raw ?_
    rw [hrec] at hp
    exact hp
  · -- The message leads back by its type to the entry that was found by the identifier.
    have hlookup : b.registry.lookup? ⟨e.schema, v⟩ = some e := by
      rw [h.lookup?_of_registered hst]
      exact congrArg some hrec.symm
    have hmem := (h.valid.lookup?_eq_some_iff.mp hlookup).1
    have hroute := Dispatcher.route_message (d := b.build.dispatcher) (m := ⟨e.schema, v⟩) hlookup
      rfl (h.valid.accepts e hmem) context
    refine ⟨frame, _, hbytes, hroute, ?_⟩
    have hhandler : e.handler =
        (lastAttached done (.handler e.schema)).map (Handler.mk e.schema) :=
      congrArg Entry.handler hrec
    have hrouter : e.router = lastAttached done (.router e.schema) := congrArg Entry.router hrec
    rw [hhandler, hrouter, Option.map_map]
    refine .message ?_ ?_ hv
    · rw [hrec] at hraw
      exact hraw
    · intro t
      constructor
      · intro ht
        exact h.schema_unique ht hst
      · rintro rfl
        exact hst

/-- Whatever a configured processor decodes it also delivers, to exactly the parties that were
attached last; a frame that it does not decode reaches nobody. -/
theorem delivery_of_arrival (steps : List (ConfigStep P)) (bytes : Bytes) (context : C) :
    let p := (new.run steps).build
    match p.decode bytes with
    | .ok d => ∃ frame : Frame, ∃ calls, bytes = frame.toBytes ∧ p.route d context = .ok calls ∧
        Delivery (new.accepted steps) (p.byteOrder.decode16 frame.header) frame.payload context
          d calls
    | .error _ => p.arrive bytes context = .ok [] := by
  intro p
  have hrec : Records (new.accepted steps) (new.run steps) := records_new.run steps
  split
  · next d hd => exact hrec.delivery_of_decode hd context
  · next err herr =>
    unfold Processor.arrive
    rw [herr]

/-- The local handler is called before the router, whichever was attached first. -/
example :
    ((new.run [.register 1 Builtin.ping, .setRouter Builtin.ping "router",
        .setHandler Builtin.ping "handler"]).build.arrive
      ([0, 1] ++ List.replicate 12 0) "context") =
      .ok [.handler "handler" (Builtin.pingOf 0 0) "context",
        .router "router" ⟨"msgproc.Ping", Builtin.pingOf 0 0, "context"⟩] :=
  rfl

end ProcessorBuilder

end Switchboard
