import Switchboard.Proofs.Processor.Namesake
import Switchboard.Proofs.Registry.Capacity

/-!
# Changes in place

A registry is changed where it stands. A registration writes to the table of identifiers, to the
table of tags and to the list of entries, one after the other, and nothing takes back what was
written when something else stops it. Nothing has to be taken back: whatever can stop a change is
checked before the first write. So a change that fails leaves everything as it was, one that
succeeds touches the entry that it names and no other, and what an entry is bound to stays.
-/

namespace Switchboard

variable {P : Type}

namespace Registry

variable {r r' : Registry P}

/-! ## Checks and writes -/

/-- One action of a change in place. -/
inductive Action (P : Type)
  /-- Looks at the registry as it stands, and may stop the change. -/
  | check (refusal : Registry P → Option RegistryError)
  | write (change : Registry P → Registry P)

/-- Actions one after the other, up to a check that stops them. What was written by then stays. -/
def perform (r : Registry P) : List (Action P) → Except RegistryError Unit × Registry P
  | [] => (.ok (), r)
  | .check refusal :: rest =>
    match refusal r with
    | some err => (.error err, r)
    | none => r.perform rest
  | .write change :: rest => (change r).perform rest

/-- What a change as a whole comes to: another registry, or an error and the one there was. -/
def commit (r : Registry P) :
    Except RegistryError (Registry P) → Except RegistryError Unit × Registry P
  | .ok r' => (.ok (), r')
  | .error err => (.error err, r)

/-- Registers a type, table by table. -/
def registerActions (id : MessageId) (s : Schema) : List (Action P) :=
  [.check fun _ => if s.tag = "" then some (.invalidSchema s.typeName) else none,
    .check fun r => (r.byTag? s.tag).map fun e => .alreadyRegistered s.tag e.id,
    .check fun r => (r.byId? id).map fun e => .idInUse id e.tag s.tag,
    .check fun r => if maxMessages ≤ r.size then some (.overflow maxMessages) else none,
    .write fun r => { r with slotsById := putSlot r.slotsById id.toNat (UInt16.ofNat r.size) },
    .write fun r => { r with slotsByTag := (s.tag, UInt16.ofNat r.size) :: r.slotsByTag },
    .write fun r => { r with entries := r.entries ++ [Entry.new id s] }]

/-- The place of the entry that a seat belongs to. -/
def slotOfSeat (r : Registry P) : Seat → Except RegistryError UInt16
  | .handler s | .router s => r.slotOfSchema s
  | .rawHandler id =>
    match r.slotOfId? id with
    | some slot => .ok slot
    | none => .error (.unknownId id)

/-- Attaches a party to the entry that its seat belongs to. -/
def attachActions (seat : Seat) (p : P) : List (Action P) :=
  [.check fun r =>
      match r.slotOfSeat seat with
      | .ok _ => none
      | .error err => some err,
    .write fun r =>
      match r.slotOfSeat seat with
      | .ok slot => r.modifyAt slot (Entry.put seat p)
      | .error _ => r]

/-- A change in place. -/
def actions : ConfigStep P → List (Action P)
  | .setByteOrder _ => []
  | .register id s => registerActions id s
  | .setHandler s p => attachActions (.handler s) p
  | .setRouter s p => attachActions (.router s) p
  | .setRawHandler id p => attachActions (.rawHandler id) p

/-- The tables and the list are written to only when every check has been passed. -/
theorem perform_registerActions (r : Registry P) (id : MessageId) (s : Schema) :
    r.perform (registerActions id s) = r.commit (r.register id s) := by
  simp only [registerActions, perform, register]
  by_cases htag : s.tag = ""
  · rw [if_pos htag, if_pos htag]
    rfl
  · rw [if_neg htag, if_neg htag]
    rcases r.byTag? s.tag with _ | e
    · rcases r.byId? id with _ | e
      · by_cases hsize : maxMessages ≤ r.size
        · rw [if_pos hsize, if_pos hsize]
          rfl
        · rw [if_neg hsize, if_neg hsize]
          rfl
      · rfl
    · rfl

theorem perform_attachActions (r : Registry P) (seat : Seat) (p : P) :
    r.perform (attachActions seat p) =
      r.commit ((r.slotOfSeat seat).map fun slot => r.modifyAt slot (Entry.put seat p)) := by
  simp only [attachActions, perform]
  rcases r.slotOfSeat seat with err | slot
  · rfl
  · rfl

/-! ## What a change comes to -/

/-- What a change is refused for. -/
inductive Refusal (r : Registry P) : ConfigStep P → RegistryError → Prop
  | untagged {id : MessageId} {s : Schema} (tag_eq : s.tag = "") :
      Refusal r (.register id s) (.invalidSchema s.typeName)
  | tagTaken {id : MessageId} {s : Schema} {e : Entry P} (tag_ne : s.tag ≠ "")
      (mem : e ∈ r.entries) (tag_eq : e.tag = s.tag) :
      Refusal r (.register id s) (.alreadyRegistered s.tag e.id)
  | idTaken {id : MessageId} {s : Schema} {e : Entry P} (tag_ne : s.tag ≠ "")
      (tag_new : ∀ d ∈ r.entries, d.tag ≠ s.tag) (mem : e ∈ r.entries) (id_eq : e.id = id) :
      Refusal r (.register id s) (.idInUse id e.tag s.tag)
  | noHandled {s : Schema} {p : P} (absent : ∀ e ∈ r.entries, e.schema ≠ s) :
      Refusal r (.setHandler s p) (.unknownSchema s.tag)
  | noRouted {s : Schema} {p : P} (absent : ∀ e ∈ r.entries, e.schema ≠ s) :
      Refusal r (.setRouter s p) (.unknownSchema s.tag)
  | noId {id : MessageId} {p : P} (absent : ∀ e ∈ r.entries, e.id ≠ id) :
      Refusal r (.setRawHandler id p) (.unknownId id)

/-- What a change comes to, and what it leaves of the registry. -/
inductive Outcome (r : Registry P) :
    ConfigStep P → Except RegistryError Unit × Registry P → Prop
  /-- A change that is refused leaves the list of entries and both tables as they were. -/
  | refused {st : ConfigStep P} {err : RegistryError} (reason : Refusal r st err) :
      Outcome r st (.error err, r)
  /-- The byte order is not kept in the registry. -/
  | byteOrder (order : ByteOrder) : Outcome r (.setByteOrder order) (.ok (), r)
  /-- Behind the entries there were stands a new one, which nobody is attached to. -/
  | registered {id : MessageId} {s : Schema} {r' : Registry P} (tag_ne : s.tag ≠ "")
      (tag_new : ∀ e ∈ r.entries, e.tag ≠ s.tag) (id_new : ∀ e ∈ r.entries, e.id ≠ id)
      (entries : r'.entries = r.entries ++ [⟨id, s, none, none, none⟩]) :
      Outcome r (.register id s) (.ok (), r')
  /-- In the one entry that the seat belongs to, the party at that seat is another. -/
  | attached {st : ConfigStep P} {seat : Seat} {p : P} {i : Nat} {e : Entry P}
      (attachment : st.attachment = some (seat, p)) (at_place : r.entries[i]? = some e)
      (of_entry : seat.Of e)
      (only : ∀ (j : Nat) (d : Entry P), r.entries[j]? = some d → seat.Of d → j = i) :
      Outcome r st (.ok (), { r with entries := r.entries.set i (e.put seat p) })

theorem modifyAt_eq_set {slot : UInt16} {e : Entry P} (he : r.entries[slot.toNat]? = some e)
    (f : Entry P → Entry P) :
    r.modifyAt slot f = { r with entries := r.entries.set slot.toNat (f e) } := by
  rw [modifyAt, List.modify_eq_set_getElem?, he]
  rfl

theorem Valid.slotOfSeat_eq_ok_iff (h : r.Valid) {seat : Seat} {slot : UInt16} :
    r.slotOfSeat seat = .ok slot ↔ ∃ e, r.entries[slot.toNat]? = some e ∧ seat.Of e := by
  cases seat with
  | handler s => exact h.slotOfSchema_eq_ok_iff
  | router s => exact h.slotOfSchema_eq_ok_iff
  | rawHandler id =>
    refine Iff.trans ?_ h.slotOfId?_eq_some_iff
    simp only [slotOfSeat]
    rcases r.slotOfId? id with _ | other
    · simp
    · simp

/-- A seat has no place if it belongs to no entry. -/
theorem Valid.not_of_slotOfSeat_error (h : r.Valid) {seat : Seat} {err : RegistryError}
    (herr : r.slotOfSeat seat = .error err) : ∀ e ∈ r.entries, ¬ seat.Of e := by
  intro e he hof
  obtain ⟨i, hi⟩ := List.mem_iff_getElem?.mp he
  obtain ⟨slot, rfl, -⟩ := h.exists_slot hi
  have hok := h.slotOfSeat_eq_ok_iff.mpr ⟨e, hi, hof⟩
  rw [herr] at hok
  cases hok

theorem Valid.refusal_of_slotOfSeat (h : r.Valid) {st : ConfigStep P} {seat : Seat} {p : P}
    {err : RegistryError} (hatt : st.attachment = some (seat, p))
    (herr : r.slotOfSeat seat = .error err) : Refusal r st err := by
  have habsent := h.not_of_slotOfSeat_error herr
  cases st with
  | setByteOrder order => cases hatt
  | register id s => cases hatt
  | setHandler s p =>
    cases hatt
    have hreason : err = .unknownSchema s.tag := eq_of_slotOfSchema_error herr
    rw [hreason]
    exact .noHandled habsent
  | setRouter s p =>
    cases hatt
    have hreason : err = .unknownSchema s.tag := eq_of_slotOfSchema_error herr
    rw [hreason]
    exact .noRouted habsent
  | setRawHandler id p =>
    cases hatt
    simp only [slotOfSeat] at herr
    split at herr
    · cases herr
    · cases herr
      exact .noId habsent

theorem Valid.outcome_attach (h : r.Valid) {st : ConfigStep P} {seat : Seat} {p : P}
    (hatt : st.attachment = some (seat, p)) :
    Outcome r st (r.perform (attachActions seat p)) := by
  rw [perform_attachActions]
  rcases hslot : r.slotOfSeat seat with err | slot
  · exact .refused (h.refusal_of_slotOfSeat hatt hslot)
  · obtain ⟨e, he, hof⟩ := h.slotOfSeat_eq_ok_iff.mp hslot
    rw [Except.map, modifyAt_eq_set he]
    apply Outcome.attached hatt he hof
    intro j d hj hd
    exact h.slot_inj_of_seat hj he hd hof

/-- Every change of a valid registry, with what it comes to. -/
theorem Valid.outcome (h : r.Valid) (st : ConfigStep P) :
    Outcome r st (r.perform (actions st)) := by
  cases st with
  | setByteOrder order => exact .byteOrder order
  | register id s =>
    have hcase := h.registration id s
    rw [actions, perform_registerActions]
    generalize r.register id s = result at hcase ⊢
    cases hcase with
    | untagged tag_eq => exact .refused (.untagged tag_eq)
    | tagTaken tag_ne mem tag_eq => exact .refused (.tagTaken tag_ne mem tag_eq)
    | idTaken tag_ne tag_new mem id_eq => exact .refused (.idTaken tag_ne tag_new mem id_eq)
    | added tag_ne tag_new id_new size_lt => exact .registered tag_ne tag_new id_new rfl
  | setHandler s p => exact h.outcome_attach rfl
  | setRouter s p => exact h.outcome_attach rfl
  | setRawHandler id p => exact h.outcome_attach rfl

/-! ## What stays -/

/-- The bindings of a registry: identifiers and types of its entries, in order. -/
def bindings (r : Registry P) : List (MessageId × Schema) :=
  r.entries.map fun e => (e.id, e.schema)

/-- Nothing that was bound before is bound differently now. -/
structure Grown (r r' : Registry P) : Prop where
  range : r.range <+: r'.range
  /-- An entry keeps its place, its identifier and its type, and with that its tag and its format. -/
  kept : ∀ (i : Nat) (e : Entry P), r.entries[i]? = some e →
    ∃ e', r'.entries[i]? = some e' ∧ e'.id = e.id ∧ e'.schema = e.schema

theorem range_eq (r : Registry P) : r.range = r.bindings.map fun p => (p.1, p.2.tag) := by
  rw [range, bindings, List.map_map]
  rfl

theorem grown_of_bindings (h : r.bindings <+: r'.bindings) : Grown r r' where
  range := by
    rw [range_eq, range_eq]
    exact h.map _
  kept := by
    intro i e he
    have hbound : r.bindings[i]? = some (e.id, e.schema) := by
      rw [bindings, List.getElem?_map, he]
      rfl
    obtain ⟨hlt, heq⟩ := List.getElem?_eq_some_iff.mp hbound
    have hlater := List.prefix_iff_getElem?.mp h i hlt
    rw [heq, bindings, List.getElem?_map] at hlater
    obtain ⟨e', he', heq⟩ := Option.map_eq_some_iff.mp hlater
    exact ⟨e', he', congrArg Prod.fst heq, congrArg Prod.snd heq⟩

end Registry

namespace ProcessorBuilder

open Registry

variable {b : ProcessorBuilder P}

/-- The steps of a configuration change the registry in place. -/
theorem perform_actions (b : ProcessorBuilder P) (st : ConfigStep P) :
    b.registry.perform (actions st) = b.registry.commit ((b.step st).map registry) := by
  cases st with
  | setByteOrder order => rfl
  | register id s =>
    rw [actions, perform_registerActions, step]
    rcases b.registry.register id s with err | r
    · rfl
    · rfl
  | setHandler s p =>
    rw [actions, perform_attachActions, step, setHandler, slotOfSeat]
    rcases b.registry.slotOfSchema s with err | slot
    · rfl
    · rfl
  | setRouter s p =>
    rw [actions, perform_attachActions, step, setRouter, slotOfSeat]
    rcases b.registry.slotOfSchema s with err | slot
    · rfl
    · rfl
  | setRawHandler id p =>
    rw [actions, perform_attachActions, step, setRawHandler, slotOfSeat]
    rcases b.registry.slotOfId? id with _ | slot
    · rfl
    · rfl

/-- A run goes on with what a change in place leaves. -/
theorem registry_run_singleton (b : ProcessorBuilder P) (st : ConfigStep P) :
    (b.run [st]).registry = (b.registry.perform (actions st)).2 := by
  rw [perform_actions]
  rcases hst : b.step st with err | b'
  · rw [(run_cons_of_error hst []).1]
    rfl
  · rw [(run_cons_of_ok hst []).1]
    rfl

theorem accepted_append (b : ProcessorBuilder P) (before after : List (ConfigStep P)) :
    b.accepted (before ++ after) = b.accepted before ++ (b.run before).accepted after := by
  induction before generalizing b with
  | nil => rfl
  | cons st rest ih =>
    rw [List.cons_append]
    rcases hst : b.step st with err | b'
    · obtain ⟨hrun, hacc⟩ := run_cons_of_error hst rest
      rw [hrun, hacc, (run_cons_of_error hst (rest ++ after)).2, ih]
    · obtain ⟨hrun, hacc⟩ := run_cons_of_ok hst rest
      rw [hrun, hacc, (run_cons_of_ok hst (rest ++ after)).2, ih]
      rfl

theorem Records.bindings_eq {done : List (ConfigStep P)} (h : Records done b) :
    b.registry.bindings = done.filterMap binding := by
  rw [bindings, h.entries, List.map_map]
  exact List.map_id _

/-- Bindings are only ever added, behind those there are. -/
theorem bindings_grow (before after : List (ConfigStep P)) :
    (new.run before).registry.bindings <+: (new.run (before ++ after)).registry.bindings := by
  have hearlier : Records (new.accepted before) (new.run before) := records_new.run before
  have hlater : Records (new.accepted (before ++ after)) (new.run (before ++ after)) :=
    records_new.run (before ++ after)
  rw [hearlier.bindings_eq, hlater.bindings_eq, accepted_append, List.filterMap_append]
  exact List.prefix_append _ _

/-- Whatever was configured before: a change that fails changes nothing at all, although it is made
in place, and one that succeeds adds one entry or attaches one party to one entry. So the bindings
there are at some time are at any later time still there, in the same places. -/
theorem allOrNothing_of_run (before : List (ConfigStep P)) :
    let r := (new.run before).registry
    (∀ st, Outcome r st (r.perform (actions st)) ∧
      r.perform (actions st) = r.commit (((new.run before).step st).map registry) ∧
      (new.run (before ++ [st])).registry = (r.perform (actions st)).2) ∧
    ∀ after, Grown r (new.run (before ++ after)).registry := by
  intro r
  have h : r.Valid := (records_new.run before).valid
  constructor
  · intro st
    refine ⟨h.outcome st, perform_actions _ st, ?_⟩
    rw [run_append]
    exact registry_run_singleton _ st
  · intro after
    exact grown_of_bindings (bindings_grow before after)

end ProcessorBuilder

end Switchboard
