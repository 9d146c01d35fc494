import Switchboard.Processor
import Switchboard.Proofs.Registry.Invariant

/-!
# What a configuration leaves behind

A builder holds what the steps that succeeded put there, and nothing else: one entry for each
registration, and at each seat of an entry the party that was attached there last. Steps that
failed leave no trace.
-/

namespace Switchboard

/-- Where a party can be attached: to a type of message or to an identifier. -/
inductive Seat
  | handler (s : Schema)
  | router (s : Schema)
  | rawHandler (id : MessageId)
  deriving DecidableEq

/-- Whether a seat belongs to an entry. -/
def Seat.Of {P : Type} (e : Entry P) : Seat → Prop
  | .handler s => e.schema = s
  | .router s => e.schema = s
  | .rawHandler id => e.id = id

instance {P : Type} (e : Entry P) (seat : Seat) : Decidable (seat.Of e) :=
  match seat with
  | .handler s => inferInstanceAs (Decidable (e.schema = s))
  | .router s => inferInstanceAs (Decidable (e.schema = s))
  | .rawHandler id => inferInstanceAs (Decidable (e.id = id))

/-- An entry with a party put at a seat. -/
def Entry.put {P : Type} (seat : Seat) (p : P) (e : Entry P) : Entry P :=
  match seat with
  | .handler s => { e with handler := some ⟨s, p⟩ }
  | .router _ => { e with router := some p }
  | .rawHandler _ => { e with rawHandler := some p }

@[simp] theorem Entry.put_id {P : Type} (seat : Seat) (p : P) (e : Entry P) :
    (e.put seat p).id = e.id := by
  cases seat <;> rfl

@[simp] theorem Entry.put_schema {P : Type} (seat : Seat) (p : P) (e : Entry P) :
    (e.put seat p).schema = e.schema := by
  cases seat <;> rfl

theorem Seat.of_put {P : Type} (seat other : Seat) (p : P) (e : Entry P) :
    seat.Of (e.put other p) ↔ seat.Of e := by
  cases seat <;> cases other <;> rfl

namespace Registry

variable {P : Type} {r : Registry P}

/-- Among the entries of a registry a seat belongs to one at most. -/
theorem Valid.slot_inj_of_seat (h : r.Valid) {seat : Seat} {i j : Nat} {e e' : Entry P}
    (hi : r.entries[i]? = some e) (hj : r.entries[j]? = some e') (he : seat.Of e)
    (he' : seat.Of e') : i = j := by
  have same_schema (hs : e.schema = e'.schema) : i = j :=
    h.byTag.place_inj h.size_le hi hj (congrArg Schema.tag hs)
  cases seat with
  | handler s => exact same_schema (Eq.trans he (Eq.symm he'))
  | router s => exact same_schema (Eq.trans he (Eq.symm he'))
  | rawHandler id => exact h.byId.place_inj h.size_le hi hj (Eq.trans he (Eq.symm he'))

/-- Attaching changes the one entry that the seat belongs to. -/
theorem Valid.entries_put (h : r.Valid) {seat : Seat} {slot : UInt16} {e : Entry P}
    (hslot : r.entries[slot.toNat]? = some e) (he : seat.Of e) (p : P) :
    (r.modifyAt slot (Entry.put seat p)).entries =
      r.entries.map fun d => if seat.Of d then d.put seat p else d := by
  refine List.ext_getElem? fun i => ?_
  rw [getElem?_modifyAt, List.getElem?_map]
  rcases hi : r.entries[i]? with _ | d
  · simp
  · rw [Option.map_some, Option.map_some]
    by_cases hd : seat.Of d
    · rw [if_pos hd, if_pos (h.slot_inj_of_seat hslot hi he hd)]
    · have hne : slot.toNat ≠ i := by
        rintro rfl
        rw [hslot] at hi
        cases hi
        exact hd he
      rw [if_neg hd, if_neg hne]

theorem Valid.put (h : r.Valid) {seat : Seat} {slot : UInt16} {e : Entry P}
    (hslot : r.entries[slot.toNat]? = some e) (he : seat.Of e) (p : P) :
    (r.modifyAt slot (Entry.put seat p)).Valid := by
  refine h.modifyAt (Entry.put_id seat p) (Entry.put_schema seat p) ?_
  intro d hd k hk
  have hmem := List.mem_of_getElem? hd
  rw [hslot] at hd
  cases hd
  cases seat with
  | handler s =>
    cases hk
    exact Eq.symm he
  | router s => exact h.accepts e hmem k hk
  | rawHandler id => exact h.accepts e hmem k hk

end Registry

/-! ## What a step does -/

/-- The party that a step attaches, and where. -/
def ConfigStep.attachment {P : Type} : ConfigStep P → Option (Seat × P)
  | .setHandler s p => some (.handler s, p)
  | .setRouter s p => some (.router s, p)
  | .setRawHandler id p => some (.rawHandler id, p)
  | _ => none

namespace ProcessorBuilder

variable {P : Type} {b b' : ProcessorBuilder P}

/-- The effect of a step that succeeds. -/
inductive Change (b : ProcessorBuilder P) : ConfigStep P → ProcessorBuilder P → Prop
  | byteOrder (order : ByteOrder) : Change b (.setByteOrder order) { b with byteOrder := order }
  | entry {id : MessageId} {s : Schema} (tag_ne : s.tag ≠ "")
      (tag_new : ∀ e ∈ b.registry.entries, e.tag ≠ s.tag)
      (id_new : ∀ e ∈ b.registry.entries, e.id ≠ id) (size_lt : b.registry.size < maxMessages) :
      Change b (.register id s) (b.withRegistry (b.registry.add id s))
  | party {st : ConfigStep P} {seat : Seat} {p : P} {slot : UInt16} {e : Entry P}
      (attachment : st.attachment = some (seat, p))
      (at_slot : b.registry.entries[slot.toNat]? = some e) (of_entry : seat.Of e) :
      Change b st (b.withRegistry (b.registry.modifyAt slot (Entry.put seat p)))

theorem map_eq_ok_iff {ε α β : Type} {x : Except ε α} {f : α → β} {y : β} :
    x.map f = .ok y ↔ ∃ a, x = .ok a ∧ f a = y := by
  cases x with
  | error e => simp [Except.map]
  | ok a => simp [Except.map]

theorem change_of_step (hb : b.registry.Valid) {st : ConfigStep P} (h : b.step st = .ok b') :
    Change b st b' := by
  cases st with
  | setByteOrder order =>
    cases h
    exact .byteOrder order
  | register id s =>
    obtain ⟨r, hr, rfl⟩ := map_eq_ok_iff.mp h
    obtain ⟨htag, hbyTag, hbyId, hsize, rfl⟩ := Registry.register_eq_ok_iff.mp hr
    exact .entry htag (hb.byTag?_eq_none_iff.mp hbyTag) (hb.byId?_eq_none_iff.mp hbyId) hsize
  | setHandler s p =>
    obtain ⟨r, hr, rfl⟩ := map_eq_ok_iff.mp h
    obtain ⟨slot, hslot, rfl⟩ := map_eq_ok_iff.mp hr
    obtain ⟨e, he, hs⟩ := hb.slotOfSchema_eq_ok_iff.mp hslot
    have hatt : (ConfigStep.setHandler s p).attachment = some (.handler s, p) := rfl
    exact .party hatt he hs
  | setRouter s p =>
    obtain ⟨r, hr, rfl⟩ := map_eq_ok_iff.mp h
    obtain ⟨slot, hslot, rfl⟩ := map_eq_ok_iff.mp hr
    obtain ⟨e, he, hs⟩ := hb.slotOfSchema_eq_ok_iff.mp hslot
    have hatt : (ConfigStep.setRouter s p).attachment = some (.router s, p) := rfl
    exact .party hatt he hs
  | setRawHandler id p =>
    obtain ⟨r, hr, rfl⟩ := map_eq_ok_iff.mp h
    unfold Registry.setRawHandler at hr
    split at hr
    · next slot hslot =>
      cases hr
      obtain ⟨e, he, hid⟩ := hb.slotOfId?_eq_some_iff.mp hslot
      have hatt : (ConfigStep.setRawHandler id p).attachment = some (.rawHandler id, p) := rfl
      exact .party hatt he hid
    · cases hr

theorem Change.step_eq {st : ConfigStep P} (h : Change b st b') (hb : b.registry.Valid) :
    b.step st = .ok b' := by
  cases h with
  | byteOrder order => rfl
  | @entry id s htag htagNew hidNew hsize =>
    have hbyTag := hb.byTag?_eq_none_iff.mpr htagNew
    have hbyId := hb.byId?_eq_none_iff.mpr hidNew
    exact map_eq_ok_iff.mpr
      ⟨_, Registry.register_eq_ok_iff.mpr ⟨htag, hbyTag, hbyId, hsize, rfl⟩, rfl⟩
  | @party _ seat p slot e hatt he hof =>
    cases st with
    | setByteOrder order => cases hatt
    | register id s => cases hatt
    | setHandler s p =>
      cases hatt
      have hslot := hb.slotOfSchema_eq_ok_iff.mpr ⟨e, he, hof⟩
      exact map_eq_ok_iff.mpr ⟨_, map_eq_ok_iff.mpr ⟨slot, hslot, rfl⟩, rfl⟩
    | setRouter s p =>
      cases hatt
      have hslot := hb.slotOfSchema_eq_ok_iff.mpr ⟨e, he, hof⟩
      exact map_eq_ok_iff.mpr ⟨_, map_eq_ok_iff.mpr ⟨slot, hslot, rfl⟩, rfl⟩
    | setRawHandler id p =>
      cases hatt
      have hslot := hb.slotOfId?_eq_some_iff.mpr ⟨e, he, hof⟩
      refine map_eq_ok_iff.mpr ⟨_, ?_, rfl⟩
      unfold Registry.setRawHandler
      rw [hslot]
      rfl

/-- A step succeeds exactly when it has an effect. -/
theorem step_eq_ok_iff (hb : b.registry.Valid) {st : ConfigStep P} :
    b.step st = .ok b' ↔ Change b st b' :=
  ⟨change_of_step hb, fun h => h.step_eq hb⟩

/-- A step that succeeds keeps a registry valid. -/
theorem Change.valid {st : ConfigStep P} (h : Change b st b') (hb : b.registry.Valid) :
    b'.registry.Valid := by
  cases h with
  | byteOrder order => exact hb
  | @entry id s htag htagNew hidNew hsize => exact hb.add htag htagNew hidNew hsize
  | @party _ seat p slot e hatt he hof => exact hb.put he hof p

/-! ## The steps that succeeded -/

/-- Those of some steps that succeed, taken one after the other. -/
def accepted (b : ProcessorBuilder P) : List (ConfigStep P) → List (ConfigStep P)
  | [] => []
  | st :: rest =>
    match b.step st with
    | .ok b' => st :: b'.accepted rest
    | .error _ => b.accepted rest

theorem accepted_cons (b : ProcessorBuilder P) (st : ConfigStep P) (rest : List (ConfigStep P)) :
    b.accepted (st :: rest) =
      match b.step st with
      | .ok b' => st :: b'.accepted rest
      | .error _ => b.accepted rest :=
  rfl

theorem run_cons_of_ok {st : ConfigStep P} (h : b.step st = .ok b') (rest : List (ConfigStep P)) :
    b.run (st :: rest) = b'.run rest ∧ b.accepted (st :: rest) = st :: b'.accepted rest := by
  constructor
  · rw [run, List.foldl_cons, h]
    rfl
  · rw [accepted_cons, h]

theorem run_cons_of_error {st : ConfigStep P} {err : RegistryError} (h : b.step st = .error err)
    (rest : List (ConfigStep P)) :
    b.run (st :: rest) = b.run rest ∧ b.accepted (st :: rest) = b.accepted rest := by
  constructor
  · rw [run, List.foldl_cons, h]
    rfl
  · rw [accepted_cons, h]

theorem run_append (b : ProcessorBuilder P) (before after : List (ConfigStep P)) :
    b.run (before ++ after) = (b.run before).run after :=
  List.foldl_append

/-- What holds of a builder, and is kept by every step that succeeds, holds after a run. -/
theorem run_induction {motive : List (ConfigStep P) → ProcessorBuilder P → Prop}
    (keep : ∀ {done b b' st}, motive done b → b.step st = .ok b' → motive (done ++ [st]) b')
    {done : List (ConfigStep P)} (h : motive done b) (steps : List (ConfigStep P)) :
    motive (done ++ b.accepted steps) (b.run steps) := by
  induction steps generalizing b done with
  | nil =>
    show motive (done ++ []) b
    rw [List.append_nil]
    exact h
  | cons st rest ih =>
    rcases hst : b.step st with err | b'
    · obtain ⟨hrun, hacc⟩ := run_cons_of_error hst rest
      rw [hrun, hacc]
      exact ih h
    · obtain ⟨hrun, hacc⟩ := run_cons_of_ok hst rest
      rw [hrun, hacc, List.append_cons]
      exact ih (keep h hst)

/-! ## What is recorded -/

/-- The identifier and the schema that a step binds. -/
def binding : ConfigStep P → Option (MessageId × Schema)
  | .register id s => some (id, s)
  | _ => none

/-- The party that a step attaches at a seat. -/
def attachedAt (seat : Seat) (st : ConfigStep P) : Option P :=
  match st.attachment with
  | some (other, p) => if other = seat then some p else none
  | none => none

/-- The party that was attached at a seat last. -/
def lastAttached (done : List (ConfigStep P)) (seat : Seat) : Option P :=
  (done.filterMap (attachedAt seat)).getLast?

theorem lastAttached_append (done : List (ConfigStep P)) (st : ConfigStep P) (seat : Seat) :
    lastAttached (done ++ [st]) seat = (attachedAt seat st).or (lastAttached done seat) := by
  rw [lastAttached, List.filterMap_append, List.getLast?_append]
  rcases h : attachedAt seat st with _ | p
  · simp [h, lastAttached]
  · simp [h]

theorem lastAttached_append_of_none (done : List (ConfigStep P)) {st : ConfigStep P}
    (h : st.attachment = none) (seat : Seat) :
    lastAttached (done ++ [st]) seat = lastAttached done seat := by
  rw [lastAttached_append, attachedAt, h]
  rfl

theorem lastAttached_append_of_some (done : List (ConfigStep P)) {st : ConfigStep P} {other : Seat}
    {p : P} (h : st.attachment = some (other, p)) (seat : Seat) :
    lastAttached (done ++ [st]) seat =
      if other = seat then some p else lastAttached done seat := by
  rw [lastAttached_append, attachedAt, h]
  by_cases hs : other = seat
  · simp [hs]
  · simp [hs]

/-- The entry of a binding, with the parties that were attached to it last. -/
def recordedEntry (done : List (ConfigStep P)) (bound : MessageId × Schema) : Entry P where
  id := bound.1
  schema := bound.2
  handler := (lastAttached done (.handler bound.2)).map (Handler.mk bound.2)
  router := lastAttached done (.router bound.2)
  rawHandler := lastAttached done (.rawHandler bound.1)

/-- A builder holds what is recorded of the steps that were done. -/
structure Records (done : List (ConfigStep P)) (b : ProcessorBuilder P) : Prop where
  valid : b.registry.Valid
  entries : b.registry.entries = (done.filterMap binding).map (recordedEntry done)
  /-- Nobody is attached where nothing is registered. -/
  seated : ∀ seat p, lastAttached done seat = some p → ∃ e ∈ b.registry.entries, seat.Of e

theorem records_new : Records [] (new : ProcessorBuilder P) where
  valid := Registry.valid_empty
  entries := rfl
  seated := by
    intro seat p h
    cases h

/-- An entry that was recorded before a party was attached. -/
theorem recordedEntry_append (done : List (ConfigStep P)) {st : ConfigStep P} {seat : Seat} {p : P}
    (h : st.attachment = some (seat, p)) (bound : MessageId × Schema) :
    recordedEntry (done ++ [st]) bound =
      if seat.Of (recordedEntry done bound) then (recordedEntry done bound).put seat p
      else recordedEntry done bound := by
  unfold recordedEntry
  simp only [lastAttached_append_of_some done h]
  cases seat with
  | handler s =>
    by_cases hs : bound.2 = s
    · simp [Seat.Of, Entry.put, hs]
    · simp [Seat.Of, hs, Ne.symm hs]
  | router s =>
    by_cases hs : bound.2 = s
    · simp [Seat.Of, Entry.put, hs]
    · simp [Seat.Of, hs, Ne.symm hs]
  | rawHandler id =>
    by_cases hid : bound.1 = id
    · simp [Seat.Of, Entry.put, hid]
    · simp [Seat.Of, hid, Ne.symm hid]

theorem recordedEntry_append_of_none (done : List (ConfigStep P)) {st : ConfigStep P}
    (h : st.attachment = none) : recordedEntry (done ++ [st]) = recordedEntry done := by
  funext bound
  simp only [recordedEntry, lastAttached_append_of_none done h]

/-- A binding to which nobody was attached yet is recorded as a new entry. -/
theorem Records.recordedEntry_new {done : List (ConfigStep P)} (h : Records done b)
    {id : MessageId} {s : Schema} (htagNew : ∀ e ∈ b.registry.entries, e.tag ≠ s.tag)
    (hidNew : ∀ e ∈ b.registry.entries, e.id ≠ id) :
    recordedEntry done (id, s) = Entry.new id s := by
  -- A party can only have been attached where there was an entry, and entries stay.
  have unseated (seat : Seat) (hseat : ∀ e ∈ b.registry.entries, ¬ seat.Of e) :
      lastAttached done seat = none := by
    refine Option.eq_none_iff_forall_ne_some.mpr ?_
    intro p hp
    obtain ⟨e, he, hof⟩ := h.seated seat p hp
    exact hseat e he hof
  have hhandler := unseated (.handler s) fun e he hs => htagNew e he (congrArg Schema.tag hs)
  have hrouter := unseated (.router s) fun e he hs => htagNew e he (congrArg Schema.tag hs)
  have hraw := unseated (.rawHandler id) hidNew
  rw [recordedEntry, hhandler, hrouter, hraw]
  rfl

/-- A step that succeeds is recorded. -/
theorem Records.step {done : List (ConfigStep P)} (h : Records done b) {st : ConfigStep P}
    (hst : b.step st = .ok b') : Records (done ++ [st]) b' := by
  have hchange := (step_eq_ok_iff h.valid).mp hst
  have hvalid := hchange.valid h.valid
  have hentries := h.entries
  cases hchange with
  | byteOrder order =>
    refine ⟨hvalid, ?_, ?_⟩
    · rw [recordedEntry_append_of_none done rfl, List.filterMap_append]
      refine hentries.trans ?_
      simp [binding]
    · intro seat p hp
      rw [lastAttached_append_of_none done rfl] at hp
      exact h.seated seat p hp
  | @entry id s htag htagNew hidNew hsize =>
    refine ⟨hvalid, ?_, ?_⟩
    · rw [recordedEntry_append_of_none done rfl, List.filterMap_append, List.map_append, ← hentries]
      refine congrArg (b.registry.entries ++ [·]) ?_
      exact (h.recordedEntry_new htagNew hidNew).symm
    · intro seat p hp
      rw [lastAttached_append_of_none done rfl] at hp
      obtain ⟨e, he, hof⟩ := h.seated seat p hp
      exact ⟨e, List.mem_append_left _ he, hof⟩
  | @party _ seat p slot e hatt he hof =>
    have hput := h.valid.entries_put he hof p
    -- The bindings stay, and of their entries exactly the one with the seat is changed.
    have hbinding : binding st = none := by
      cases st <;> first | rfl | cases hatt
    refine ⟨hvalid, ?_, ?_⟩
    · rw [List.filterMap_append, List.filterMap_cons, hbinding]
      refine hput.trans ?_
      rw [hentries, List.filterMap_nil, List.append_nil, List.map_map]
      exact congrArg (List.map · _) (funext fun bound => (recordedEntry_append done hatt bound).symm)
    · intro other q hq
      show ∃ d ∈ (b.registry.modifyAt slot (Entry.put seat p)).entries, other.Of d
      rw [hput]
      have found : ∃ d ∈ b.registry.entries, other.Of d := by
        rw [lastAttached_append_of_some done hatt] at hq
        by_cases hother : seat = other
        · exact ⟨e, List.mem_of_getElem? he, hother ▸ hof⟩
        · rw [if_neg hother] at hq
          exact h.seated other q hq
      obtain ⟨d, hd, hdof⟩ := found
      refine ⟨_, List.mem_map_of_mem hd, ?_⟩
      split
      · exact (Seat.of_put other seat p d).mpr hdof
      · exact hdof

/-- A run is recorded. -/
theorem Records.run {done : List (ConfigStep P)} (h : Records done b)
    (steps : List (ConfigStep P)) : Records (done ++ b.accepted steps) (b.run steps) :=
  run_induction (fun h hst => h.step hst) h steps

/-- What was registered are the entries. -/
theorem Records.mem_entries_iff {done : List (ConfigStep P)} (h : Records done b) {e : Entry P} :
    e ∈ b.registry.entries ↔ .register e.id e.schema ∈ done ∧ e = recordedEntry done (e.id, e.schema) := by
  rw [h.entries, List.mem_map]
  constructor
  · rintro ⟨bound, hbound, rfl⟩
    obtain ⟨st, hst, hbinding⟩ := List.mem_filterMap.mp hbound
    cases st <;> cases hbinding
    exact ⟨hst, rfl⟩
  · rintro ⟨hst, he⟩
    exact ⟨(e.id, e.schema), List.mem_filterMap.mpr ⟨_, hst, rfl⟩, he.symm⟩

theorem Records.recordedEntry_mem {done : List (ConfigStep P)} (h : Records done b)
    {id : MessageId} {s : Schema} (hst : .register id s ∈ done) :
    recordedEntry done (id, s) ∈ b.registry.entries :=
  h.mem_entries_iff.mpr ⟨hst, rfl⟩

/-- An identifier is registered for one schema only. -/
theorem Records.schema_unique {done : List (ConfigStep P)} (h : Records done b) {id : MessageId}
    {s t : Schema} (hs : .register id s ∈ done) (ht : .register id t ∈ done) : s = t :=
  congrArg Entry.schema (h.valid.eq_of_id (h.recordedEntry_mem hs) (h.recordedEntry_mem ht) rfl)

/-- Looking up an identifier finds what is recorded of it. -/
theorem Records.byId?_eq_some_iff {done : List (ConfigStep P)} (h : Records done b)
    {id : MessageId} {e : Entry P} :
    b.registry.byId? id = some e ↔
      .register id e.schema ∈ done ∧ e = recordedEntry done (id, e.schema) := by
  rw [h.valid.byId?_eq_some_iff, h.mem_entries_iff]
  constructor
  · rintro ⟨hmem, rfl⟩
    exact hmem
  · rintro ⟨hst, he⟩
    have hid : e.id = id := congrArg Entry.id he
    rw [hid]
    exact ⟨⟨hst, he⟩, rfl⟩

theorem Records.byId?_eq_none_iff {done : List (ConfigStep P)} (h : Records done b)
    {id : MessageId} : b.registry.byId? id = none ↔ ∀ s, .register id s ∉ done := by
  constructor
  · intro hnone s hst
    have hfound : b.registry.byId? id = some (recordedEntry done (id, s)) :=
      h.byId?_eq_some_iff.mpr ⟨hst, rfl⟩
    rw [hnone] at hfound
    cases hfound
  · intro hunbound
    apply Option.eq_none_iff_forall_ne_some.mpr
    intro e he
    exact hunbound e.schema (h.byId?_eq_some_iff.mp he).1

/-- Looking up a message finds what is recorded of its type. -/
theorem Records.lookup?_of_registered {done : List (ConfigStep P)} (h : Records done b)
    {id : MessageId} {m : Message} (hst : .register id m.schema ∈ done) :
    b.registry.lookup? m = some (recordedEntry done (id, m.schema)) :=
  h.valid.lookup?_eq_some_iff.mpr ⟨h.recordedEntry_mem hst, rfl⟩

end ProcessorBuilder

end Switchboard
