import Switchboard.Proofs.Processor.Namesake

/-!
# The order of configuration cannot be seen

Places in a registry, and with them both of its tables, depend on the order in which types were
registered. Nothing that a finished processor does depends on places: it only looks entries up, and
two configurations that registered the same types and attached the same parties last have the same
entries, in whatever order.
-/

namespace Switchboard

variable {P C : Type}

namespace Registry

variable {r r' : Registry P}

theorem Valid.byId?_congr (h : r.Valid) (h' : r'.Valid)
    (hmem : ∀ e, e ∈ r.entries ↔ e ∈ r'.entries) (id : MessageId) : r.byId? id = r'.byId? id := by
  apply Option.ext
  intro e
  rw [h.byId?_eq_some_iff, h'.byId?_eq_some_iff, hmem]

theorem Valid.lookup?_congr (h : r.Valid) (h' : r'.Valid)
    (hmem : ∀ e, e ∈ r.entries ↔ e ∈ r'.entries) (m : Message) : r.lookup? m = r'.lookup? m := by
  apply Option.ext
  intro e
  rw [h.lookup?_eq_some_iff, h'.lookup?_eq_some_iff, hmem]

end Registry

namespace Processor

/-- Two processors that do the same with everything they are given. -/
structure Indistinct (p q : Processor P) : Prop where
  encode : ∀ m, p.encode m = q.encode m
  encodeRaw : ∀ r, p.encodeRaw r = q.encodeRaw r
  decode : ∀ bytes, p.decode bytes = q.decode bytes
  /-- The same calls in the same order, or the same error. -/
  route : ∀ {C : Type} (d : Decoded) (context : C),
    (p.route d context : Except DispatchError (List (Call P C))) = q.route d context

/-- A processor is known by what its registry finds. -/
theorem indistinct_of_lookups {p q : Processor P} (horder : p.byteOrder = q.byteOrder)
    (hid : ∀ id, p.registry.byId? id = q.registry.byId? id)
    (hlookup : ∀ m, p.registry.lookup? m = q.registry.lookup? m) : Indistinct p q where
  encode := by
    intro m
    simp only [encode, codec, Codec.encode, hlookup, horder]
  encodeRaw := by
    intro r
    simp only [encodeRaw, codec, Codec.encodeRaw, hid, horder]
  decode := by
    intro bytes
    unfold decode codec Codec.decode
    simp only [hid, horder]
  route := by
    intro C d context
    cases d with
    | message m => simp only [route, dispatcher, Dispatcher.route, hlookup]
    | raw r => simp only [route, dispatcher, Dispatcher.route, hid]

end Processor

namespace ProcessorBuilder

variable {b : ProcessorBuilder P} {done done' : List (ConfigStep P)}

/-! ## The byte order -/

def orderSet : ConfigStep P → Option ByteOrder
  | .setByteOrder order => some order
  | _ => none

/-- The byte order that was set last, or that of a new builder. -/
def lastOrder (done : List (ConfigStep P)) : ByteOrder :=
  (done.filterMap orderSet).getLast?.getD .big

theorem lastOrder_append_of_none {st : ConfigStep P} (h : orderSet st = none) :
    lastOrder (done ++ [st]) = lastOrder done := by
  simp [lastOrder, h]

theorem orderSet_of_attachment {st : ConfigStep P} {seat : Seat} {p : P}
    (h : st.attachment = some (seat, p)) : orderSet st = none := by
  cases st with
  | setByteOrder order => cases h
  | _ => rfl

theorem byteOrder_of_change {st : ConfigStep P} {b' : ProcessorBuilder P} (hchange : Change b st b')
    (h : b.byteOrder = lastOrder done) : b'.byteOrder = lastOrder (done ++ [st]) := by
  cases hchange with
  | byteOrder order => simp [lastOrder, orderSet]
  | entry htag htagNew hidNew hsize =>
    rw [lastOrder_append_of_none rfl]
    exact h
  | party hatt he hof =>
    rw [lastOrder_append_of_none (orderSet_of_attachment hatt)]
    exact h

theorem byteOrder_of_run (steps : List (ConfigStep P)) :
    (new.run steps).byteOrder = lastOrder (new.accepted steps) := by
  have hnew : Records [] (new : ProcessorBuilder P) ∧
      (new : ProcessorBuilder P).byteOrder = lastOrder ([] : List (ConfigStep P)) :=
    ⟨records_new, rfl⟩
  have h := run_induction
    (motive := fun done (b : ProcessorBuilder P) =>
      Records done b ∧ b.byteOrder = lastOrder done)
    (fun ⟨hrec, horder⟩ hst =>
      ⟨hrec.step hst, byteOrder_of_change (change_of_step hrec.valid hst) horder⟩)
    hnew steps
  exact h.2

/-! ## The entries -/

/-- Two configurations with the same outcome, told from the steps that succeeded in each. Steps
that failed and parties that were replaced do not count, and neither does any order of steps but
that of two attachments to the same seat. -/
structure Agree (done done' : List (ConfigStep P)) : Prop where
  registered : ∀ id s, .register id s ∈ done ↔ .register id s ∈ done'
  byteOrder : lastOrder done = lastOrder done'
  attached : ∀ id s, .register id s ∈ done → ∀ seat : Seat, seat.Of (Entry.new (P := P) id s) →
    lastAttached done seat = lastAttached done' seat

theorem Agree.symm (h : Agree done done') : Agree done' done where
  registered := fun id s => (h.registered id s).symm
  byteOrder := h.byteOrder.symm
  attached := fun id s hs seat hof => (h.attached id s ((h.registered id s).mpr hs) seat hof).symm

theorem Agree.recordedEntry_eq (h : Agree done done') {id : MessageId} {s : Schema}
    (hs : .register id s ∈ done) : recordedEntry done (id, s) = recordedEntry done' (id, s) := by
  have hhandler := h.attached id s hs (.handler s) rfl
  have hrouter := h.attached id s hs (.router s) rfl
  have hraw := h.attached id s hs (.rawHandler id) rfl
  simp only [recordedEntry, hhandler, hrouter, hraw]

theorem Agree.entries_subset (h : Agree done done') {b' : ProcessorBuilder P}
    (hrec : Records done b) (hrec' : Records done' b') {e : Entry P}
    (he : e ∈ b.registry.entries) : e ∈ b'.registry.entries := by
  obtain ⟨hst, heq⟩ := hrec.mem_entries_iff.mp he
  apply hrec'.mem_entries_iff.mpr
  constructor
  · exact (h.registered _ _).mp hst
  · rw [← h.recordedEntry_eq hst]
    exact heq

/-- Configurations that agree make processors that nobody can tell apart. -/
theorem indistinct_of_agree (steps steps' : List (ConfigStep P))
    (h : Agree (new.accepted steps) (new.accepted steps')) :
    (new.run steps).build.Indistinct (new.run steps').build := by
  have hrec : Records (new.accepted steps) (new.run steps) := records_new.run steps
  have hrec' : Records (new.accepted steps') (new.run steps') := records_new.run steps'
  have hmem (e : Entry P) :
      e ∈ (new.run steps).registry.entries ↔ e ∈ (new.run steps').registry.entries :=
    ⟨h.entries_subset hrec hrec', h.symm.entries_subset hrec' hrec⟩
  apply Processor.indistinct_of_lookups
  · change (new.run steps).byteOrder = (new.run steps').byteOrder
    rw [byteOrder_of_run, byteOrder_of_run, h.byteOrder]
  · exact hrec.valid.byId?_congr hrec'.valid hmem
  · exact hrec.valid.lookup?_congr hrec'.valid hmem

/-- A type with a handler that was replaced, then one with a router. -/
def tidySteps : List (ConfigStep String) :=
  [.setByteOrder .little, .register 7 Samples.chat, .setHandler Samples.chat "first",
    .setHandler Samples.chat "local", .register 2 Samples.shoot, .setRouter Samples.shoot "pool"]

/-- The same the other way round, with steps that fail in between. -/
def tangledSteps : List (ConfigStep String) :=
  [.setRouter Samples.shoot "early", .register 2 Samples.shoot, .register 2 Samples.chat,
    .setRouter Samples.shoot "old", .register 7 Samples.chat, .setByteOrder .big,
    .setRouter Samples.shoot "pool", .setHandler Samples.chat "local", .setRawHandler 9 "nobody",
    .setByteOrder .little]

theorem agree_of_tangledSteps : Agree (new.accepted tidySteps) (new.accepted tangledSteps) := by
  have htidy : new.accepted tidySteps = tidySteps := rfl
  have htangled : new.accepted tangledSteps =
      [.register 2 Samples.shoot, .setRouter Samples.shoot "old", .register 7 Samples.chat,
        .setByteOrder .big, .setRouter Samples.shoot "pool", .setHandler Samples.chat "local",
        .setByteOrder .little] := rfl
  rw [htidy, htangled]
  refine ⟨?_, rfl, ?_⟩
  · intro id s
    simp [tidySteps, or_comm]
  · intro id s hs seat hof
    have hcase : (id = 7 ∧ s = Samples.chat) ∨ (id = 2 ∧ s = Samples.shoot) := by
      simpa [tidySteps] using hs
    rcases hcase with ⟨rfl, rfl⟩ | ⟨rfl, rfl⟩ <;> cases seat <;> cases hof <;> decide

/-- The two registries have their entries in different places all the same. -/
theorem indistinct_of_tangledSteps :
    Agree (new.accepted tidySteps) (new.accepted tangledSteps) ∧
      (new.run tidySteps).registry.range ≠ (new.run tangledSteps).registry.range ∧
      (new.run tidySteps).build.Indistinct (new.run tangledSteps).build :=
  ⟨agree_of_tangledSteps, by decide, indistinct_of_agree _ _ agree_of_tangledSteps⟩

end ProcessorBuilder

end Switchboard
