import Switchboard.Proofs.Processor.Delivery
import Switchboard.Schema.Samples

/-!
# Namesakes

Two types of messages can have the same tag. A registry keeps one of them at most, and the tables do
not tell them apart: what keeps the other out is the comparison of types behind each lookup. So the
other type is treated like one whose tag nobody has registered, except that its tag cannot be
registered any more. Behind those comparisons a local handler never gets a message that it would
pass over, and a message that was found can always be handed to the writer of its payload.
-/

namespace Switchboard

variable {P C : Type}

namespace Registry

variable {r : Registry P} {e : Entry P}

/-- An entry keeps other types with its tag out of a registry. -/
theorem Valid.schema_ne_of_namesake (h : r.Valid) (he : e ∈ r.entries) {s : Schema}
    (htag : s.tag = e.tag) (hne : s ≠ e.schema) : ∀ d ∈ r.entries, d.schema ≠ s := by
  rintro d hd rfl
  have hsame : d = e := h.eq_of_tag hd he htag
  exact hne (congrArg Entry.schema hsame)

theorem Valid.lookup?_namesake (h : r.Valid) (he : e ∈ r.entries) {m : Message}
    (htag : m.tag = e.tag) (hne : m.schema ≠ e.schema) : r.lookup? m = none := by
  refine Option.eq_none_iff_forall_ne_some.mpr ?_
  intro d hd
  obtain ⟨hmem, hschema⟩ := h.lookup?_eq_some_iff.mp hd
  exact h.schema_ne_of_namesake he htag hne d hmem hschema

/-- There is one reason only for which a schema has no place. -/
theorem eq_of_slotOfSchema_error {s : Schema} {err : RegistryError}
    (h : r.slotOfSchema s = .error err) : err = .unknownSchema s.tag := by
  unfold slotOfSchema at h
  split at h
  · exact (Except.error.inj h).symm
  · split at h
    · split at h
      · cases h
      · exact (Except.error.inj h).symm
    · exact (Except.error.inj h).symm

theorem Valid.slotOfSchema_namesake (h : r.Valid) (he : e ∈ r.entries) {s : Schema}
    (htag : s.tag = e.tag) (hne : s ≠ e.schema) :
    r.slotOfSchema s = .error (.unknownSchema s.tag) := by
  rcases hslot : r.slotOfSchema s with err | slot
  · rw [eq_of_slotOfSchema_error hslot]
  · obtain ⟨d, hd, hschema⟩ := h.slotOfSchema_eq_ok_iff.mp hslot
    exact absurd hschema (h.schema_ne_of_namesake he htag hne d (List.mem_of_getElem? hd))

/-- A tag is registered once, whatever the identifier. -/
theorem Valid.register_namesake (h : r.Valid) (he : e ∈ r.entries) {s : Schema}
    (htag : s.tag = e.tag) (id : MessageId) :
    r.register id s = .error (.alreadyRegistered s.tag e.id) := by
  have hne : s.tag ≠ "" := by
    rw [htag]
    exact h.tag_ne e he
  have hfound : r.byTag? s.tag = some e := h.byTag?_eq_some_iff.mpr ⟨he, htag.symm⟩
  rw [register, if_neg hne, hfound]

end Registry

theorem Codec.encode_of_lookup_none {c : Codec P} {m : Message}
    (h : c.registry.lookup? m = none) : c.encode m = .error (.notRegistered m.tag) := by
  rw [encode, h]

theorem Dispatcher.route_of_lookup_none {d : Dispatcher P} {m : Message}
    (h : d.registry.lookup? m = none) (context : C) :
    d.route (.message m) context = .error (.notRegistered m.tag) := by
  unfold route
  dsimp only
  rw [h]

namespace ProcessorBuilder

variable {b : ProcessorBuilder P} {e : Entry P} {m : Message}

/-- A step that fails changes nothing. -/
theorem run_singleton_of_error {st : ConfigStep P} {err : RegistryError}
    (h : b.step st = .error err) : b.run [st] = b :=
  (run_cons_of_error h []).1

/-- What a message comes to whose type is not that of the entry with its tag. -/
structure ShutOut (b : ProcessorBuilder P) (e : Entry P) (m : Message) : Prop where
  lookup : b.registry.lookup? m = none
  encode : b.build.encode m = .error (.notRegistered m.tag)
  /-- Nobody is called. -/
  route : ∀ {C : Type} (context : C),
    b.build.route (.message m) context = .error (.notRegistered m.tag)
  setHandler : ∀ p, b.step (.setHandler m.schema p) = .error (.unknownSchema m.tag) ∧
    b.run [.setHandler m.schema p] = b
  setRouter : ∀ p, b.step (.setRouter m.schema p) = .error (.unknownSchema m.tag) ∧
    b.run [.setRouter m.schema p] = b
  register : ∀ id, b.step (.register id m.schema) = .error (.alreadyRegistered m.tag e.id) ∧
    b.run [.register id m.schema] = b

theorem shutOut_of_namesake (h : b.registry.Valid) (he : e ∈ b.registry.entries)
    (htag : m.tag = e.tag) (hne : m.schema ≠ e.schema) : ShutOut b e m := by
  have hlookup := h.lookup?_namesake he htag hne
  have hslot := h.slotOfSchema_namesake he htag hne
  have hhandler (p : P) : b.step (.setHandler m.schema p) = .error (.unknownSchema m.tag) := by
    rw [step, Registry.setHandler, hslot]
    rfl
  have hrouter (p : P) : b.step (.setRouter m.schema p) = .error (.unknownSchema m.tag) := by
    rw [step, Registry.setRouter, hslot]
    rfl
  have hregister (id : MessageId) :
      b.step (.register id m.schema) = .error (.alreadyRegistered m.tag e.id) := by
    rw [step, h.register_namesake he htag]
    rfl
  exact
    { lookup := hlookup
      encode := Codec.encode_of_lookup_none (c := b.build.codec) hlookup
      route := Dispatcher.route_of_lookup_none (d := b.build.dispatcher) hlookup
      setHandler := fun p => ⟨hhandler p, run_singleton_of_error (hhandler p)⟩
      setRouter := fun p => ⟨hrouter p, run_singleton_of_error (hrouter p)⟩
      register := fun id => ⟨hregister id, run_singleton_of_error (hregister id)⟩ }

/-- The comparisons of types that come behind a lookup never fail. -/
structure Unmistaken (b : ProcessorBuilder P) : Prop where
  /-- A handler is called for messages of the type of its entry only. -/
  handled : ∀ {C : Type} {m : Message} {context : C} {calls : List (Call P C)},
    b.build.route (.message m) context = .ok calls → ∀ {p n c}, .handler p n c ∈ calls →
      n = m ∧ c = context ∧
        ∃ e ∈ b.registry.entries, e.schema = n.schema ∧ e.handler = some ⟨e.schema, p⟩
  /-- A handler of the entry that was found for a message does not pass over it. -/
  taken : ∀ {m e h}, b.registry.lookup? m = some e → e.handler = some h →
    ∀ {C : Type} (context : C), h.calls m context = [.handler h.party m context]
  /-- The entry that was found for a message writes it, or says why its format cannot. -/
  written : ∀ {m e}, b.registry.lookup? m = some e → e.encodePayload? m ≠ none
  notRegistered : ∀ {m tag}, b.build.encode m = .error (.notRegistered tag) ↔
    b.registry.lookup? m = none ∧ tag = m.tag

theorem encodePayload?_ne_none (h : b.registry.Valid) (he : b.registry.lookup? m = some e) :
    e.encodePayload? m ≠ none := by
  have hschema := (h.lookup?_eq_some_iff.mp he).2
  have hsome : (m.as? e.schema).isSome := by
    rw [Message.isSome_as?, Message.is]
    exact decide_eq_true hschema.symm
  rw [Entry.encodePayload?, ne_eq, Option.map_eq_none_iff]
  exact Option.isSome_iff_ne_none.mp hsome

theorem encode_eq_notRegistered_iff (h : b.registry.Valid) {tag : String} :
    b.build.encode m = .error (.notRegistered tag) ↔
      b.registry.lookup? m = none ∧ tag = m.tag := by
  change (Codec.mk b.registry b.byteOrder).encode m = _ ↔ _
  rcases hlookup : b.registry.lookup? m with _ | e
  · rw [Codec.encode_of_lookup_none hlookup]
    simp [eq_comm]
  · -- The exit behind the writer of payloads is the one that is never taken.
    have hne := encodePayload?_ne_none h hlookup
    rcases hpayload : e.encodePayload? m with _ | (err | payload)
    · exact absurd hpayload hne
    · simp [Codec.encode, hlookup, hpayload]
    · simp [Codec.encode, hlookup, hpayload]

theorem unmistaken_of_valid (h : b.registry.Valid) : Unmistaken b where
  handled := by
    intro C m context calls hroute p n c hcall
    -- A message that is not found is not routed, so the calls come from an entry of its type.
    rcases hlookup : b.registry.lookup? m with _ | e
    · have hnone := Dispatcher.route_of_lookup_none (d := b.build.dispatcher) hlookup context
      exact absurd (hroute.symm.trans hnone) nofun
    · obtain ⟨hmem, hschema⟩ := h.lookup?_eq_some_iff.mp hlookup
      have haccepts (k : Handler P) (hk : e.handler = some k) : k.accepts = m.schema :=
        (h.accepts e hmem k hk).trans hschema
      have hcalls := Dispatcher.route_message (d := b.build.dispatcher) hlookup hschema haccepts
        context
      cases Except.ok.inj (hroute.symm.trans hcalls)
      rcases List.mem_append.mp hcall with hhandler | hrouter
      · obtain ⟨k, hk, heq⟩ := Option.map_eq_some_iff.mp (Option.mem_toList.mp hhandler)
        cases heq
        refine ⟨rfl, rfl, e, hmem, hschema, ?_⟩
        rw [hk, ← h.accepts e hmem k hk]
      · obtain ⟨q, -, heq⟩ := Option.map_eq_some_iff.mp (Option.mem_toList.mp hrouter)
        cases heq
  taken := by
    intro m e k hlookup hk C context
    obtain ⟨hmem, hschema⟩ := h.lookup?_eq_some_iff.mp hlookup
    exact Handler.calls_of_accepts ((h.accepts e hmem k hk).trans hschema) context
  written := encodePayload?_ne_none h
  notRegistered := encode_eq_notRegistered_iff h

/-- After any configuration: a message of another type under a registered tag is not found, not
written and not delivered, and its type can neither be registered nor have anybody attached. So no
handler is ever called for a message that is not of its own type, and none passes over a message
that was found for it. -/
theorem apart_of_run (steps : List (ConfigStep P)) :
    let b := new.run steps
    (∀ e ∈ b.registry.entries, ∀ m : Message, m.tag = e.tag → m.schema ≠ e.schema →
      ShutOut b e m) ∧ Unmistaken b := by
  intro b
  have h : b.registry.Valid := (records_new.run steps).valid
  constructor
  · intro e he m htag hne
    exact shutOut_of_namesake h he htag hne
  · exact unmistaken_of_valid h

/-- A type with a handler, and a namesake of it that was to be registered and attached as well. -/
def namesakeSteps : List (ConfigStep String) :=
  [.register 5 Samples.chat, .setHandler Samples.chat "local", .register 6 Samples.chatImpostor,
    .setHandler Samples.chatImpostor "other"]

theorem apart_of_namesakeSteps :
    let b := new.run namesakeSteps
    let e : Entry String := ⟨5, Samples.chat, some ⟨Samples.chat, "local"⟩, none, none⟩
    let m : Message := ⟨Samples.chatImpostor, ()⟩
    e ∈ b.registry.entries ∧ m.tag = e.tag ∧ m.schema ≠ e.schema ∧ ShutOut b e m := by
  intro b e m
  have he : e ∈ b.registry.entries := .head _
  have hne : m.schema ≠ e.schema := by decide
  exact ⟨he, rfl, hne, (apart_of_run namesakeSteps).1 e he m rfl hne⟩

end ProcessorBuilder

end Switchboard
