import Mathlib.Data.List.Perm.Subperm
import Switchboard.Proofs.Registry.Search

/-!
# How much a registry holds

Places are written down on sixteen bits, and so are identifiers. No two entries have the same
identifier, so there are never more entries than places can be written down for, and each of them is
written down exactly. A registry that is full has no identifier left: a registration that gets as far
as the limit on the number of entries has been refused before.
-/

namespace Switchboard

variable {P : Type}

namespace Registry

variable {r r' : Registry P}

/-! ## What a registration comes to -/

/-- The outcome of a registration: the first thing that stands against it, or a new entry. -/
inductive Registration (r : Registry P) (id : MessageId) (s : Schema) :
    Except RegistryError (Registry P) → Prop
  | untagged (tag_eq : s.tag = "") : Registration r id s (.error (.invalidSchema s.typeName))
  | tagTaken {e : Entry P} (tag_ne : s.tag ≠ "") (mem : e ∈ r.entries) (tag_eq : e.tag = s.tag) :
      Registration r id s (.error (.alreadyRegistered s.tag e.id))
  | idTaken {e : Entry P} (tag_ne : s.tag ≠ "") (tag_new : ∀ d ∈ r.entries, d.tag ≠ s.tag)
      (mem : e ∈ r.entries) (id_eq : e.id = id) :
      Registration r id s (.error (.idInUse id e.tag s.tag))
  | added (tag_ne : s.tag ≠ "") (tag_new : ∀ e ∈ r.entries, e.tag ≠ s.tag)
      (id_new : ∀ e ∈ r.entries, e.id ≠ id) (size_lt : r.size < maxMessages) :
      Registration r id s (.ok (r.add id s))

/-- No two entries have the same identifier, and there are only so many. -/
theorem Valid.ids_subperm (h : r.Valid) :
    (r.entries.map fun e => e.id.toNat).Subperm (List.range maxMessages) := by
  apply List.subperm_of_subset
  · have hids := h.byId.keys_nodup h.size_le
    rw [List.nodup_iff_pairwise_ne, List.pairwise_map] at hids ⊢
    apply hids.imp
    intro d e hne heq
    exact hne (UInt16.toNat_inj.mp heq)
  · intro n hn
    obtain ⟨e, -, rfl⟩ := List.mem_map.mp hn
    exact List.mem_range.mpr e.id.toNat_lt

/-- In a full registry every identifier is bound. -/
theorem Valid.exists_of_full (h : r.Valid) (hfull : maxMessages ≤ r.size) (id : MessageId) :
    ∃ e ∈ r.entries, e.id = id := by
  have hle : (List.range maxMessages).length ≤ (r.entries.map fun e => e.id.toNat).length := by
    rw [List.length_range, List.length_map]
    exact hfull
  have hperm := h.ids_subperm.perm_of_length_le hle
  have hid : id.toNat ∈ r.entries.map fun e => e.id.toNat :=
    hperm.mem_iff.mpr (List.mem_range.mpr id.toNat_lt)
  obtain ⟨e, he, heq⟩ := List.mem_map.mp hid
  exact ⟨e, he, UInt16.toNat_inj.mp heq⟩

/-- The limit on the number of entries is checked last, and then it has not been reached. -/
theorem Valid.registration (h : r.Valid) (id : MessageId) (s : Schema) :
    Registration r id s (r.register id s) := by
  unfold register
  split
  · next htag => exact .untagged htag
  · next htag =>
    split
    · next e hfound =>
      obtain ⟨he, heq⟩ := h.byTag?_eq_some_iff.mp hfound
      exact .tagTaken htag he heq
    · next hbyTag =>
      have htagNew := h.byTag?_eq_none_iff.mp hbyTag
      split
      · next e hfound =>
        obtain ⟨he, heq⟩ := h.byId?_eq_some_iff.mp hfound
        exact .idTaken htag htagNew he heq
      · next hbyId =>
        have hidNew := h.byId?_eq_none_iff.mp hbyId
        split
        · next hfull =>
          obtain ⟨e, he, heq⟩ := h.exists_of_full hfull id
          exact absurd heq (hidNew e he)
        · next hsize => exact .added htag htagNew hidNew (Nat.lt_of_not_le hsize)

/-! ## The table of places -/

/-- A table grows only as far as it has to. -/
theorem size_putSlot (slots : Array (Option UInt16)) (i : Nat) (slot : UInt16) :
    (putSlot slots i slot).size = max slots.size (i + 1) := by
  rw [putSlot, Array.size_setIfInBounds, Array.size_append, Array.size_replicate]
  omega

/-- What the number of entries is limited by. -/
structure Capacity (r : Registry P) : Prop where
  size_le : r.size ≤ maxMessages
  cells_le : r.slotsById.size ≤ maxMessages
  /-- The place of every entry is written down in both tables, exactly as it is. -/
  placed : ∀ (i : Nat) (e : Entry P), r.entries[i]? = some e → ∃ slot : UInt16, slot.toNat = i ∧
    r.slotOfId? e.id = some slot ∧ r.slotOfTag? e.tag = some slot
  /-- No two entries have the same place. -/
  apart : ∀ d ∈ r.entries, ∀ e ∈ r.entries, r.slotOfId? d.id = r.slotOfId? e.id → d = e
  /-- The place of a new entry is the number of entries that were there before. -/
  next : ∀ (id : MessageId) (s : Schema) (r' : Registry P), r.register id s = .ok r' →
    r.size < maxMessages ∧ ∃ slot : UInt16, slot.toNat = r.size ∧ r'.slotOfId? id = some slot ∧
      r'.slotOfTag? s.tag = some slot ∧ r'.entries[slot.toNat]? = some (Entry.new id s)
  /-- The limit on the number of entries never is what a registration fails at. -/
  no_overflow : ∀ (id : MessageId) (s : Schema) (max : Nat),
    r.register id s ≠ .error (.overflow max)
  /-- A full registry refuses everything, for another reason. -/
  full : r.size = maxMessages → ∀ (id : MessageId) (s : Schema),
    (s.tag = "" ∧ r.register id s = .error (.invalidSchema s.typeName)) ∨
    (∃ e ∈ r.entries, e.tag = s.tag ∧ r.register id s = .error (.alreadyRegistered s.tag e.id)) ∨
    ∃ e ∈ r.entries, e.id = id ∧ r.register id s = .error (.idInUse id e.tag s.tag)

theorem Valid.exists_slot (h : r.Valid) {i : Nat} {e : Entry P} (he : r.entries[i]? = some e) :
    ∃ slot : UInt16, slot.toNat = i ∧ r.slotOfId? e.id = some slot ∧
      r.slotOfTag? e.tag = some slot := by
  obtain ⟨hlt, -⟩ := List.getElem?_eq_some_iff.mp he
  have hexact : (UInt16.ofNat i).toNat = i :=
    UInt16.toNat_ofNat_of_lt' (Nat.lt_of_lt_of_le hlt h.size_le)
  refine ⟨UInt16.ofNat i, hexact, ?_, ?_⟩
  · rw [h.byId, hexact, he, Option.map_some]
  · rw [h.byTag, hexact, he, Option.map_some]

theorem Valid.eq_of_slot (h : r.Valid) {d e : Entry P} (hd : d ∈ r.entries) (he : e ∈ r.entries)
    (heq : r.slotOfId? d.id = r.slotOfId? e.id) : d = e := by
  obtain ⟨i, hi⟩ := List.mem_iff_getElem?.mp hd
  obtain ⟨j, hj⟩ := List.mem_iff_getElem?.mp he
  obtain ⟨slot, rfl, hslot, -⟩ := h.exists_slot hi
  obtain ⟨slot', rfl, hslot', -⟩ := h.exists_slot hj
  rw [hslot, hslot'] at heq
  cases heq
  exact Option.some.inj (hi.symm.trans hj)

theorem Valid.add_placed {id : MessageId} {s : Schema} (hadd : (r.add id s).Valid)
    (hsize : r.size < maxMessages) : ∃ slot : UInt16, slot.toNat = r.size ∧
      (r.add id s).slotOfId? id = some slot ∧ (r.add id s).slotOfTag? s.tag = some slot ∧
        (r.add id s).entries[slot.toNat]? = some (Entry.new id s) := by
  have hexact : (UInt16.ofNat r.size).toNat = r.size := UInt16.toNat_ofNat_of_lt' hsize
  have hnew := getElem?_add_new hsize id s
  rw [hexact] at hnew
  obtain ⟨slot, hslot, hid, htag⟩ := hadd.exists_slot hnew
  refine ⟨slot, hslot, hid, htag, ?_⟩
  rw [hslot]
  exact hnew

theorem Valid.capacity (h : r.Valid) (hcells : r.slotsById.size ≤ maxMessages) : r.Capacity where
  size_le := h.size_le
  cells_le := hcells
  placed := by
    intro i e he
    exact h.exists_slot he
  apart := by
    intro d hd e he heq
    exact h.eq_of_slot hd he heq
  next := by
    intro id s r' hr
    have hcase := h.registration id s
    rw [hr] at hcase
    cases hcase with
    | added tag_ne tag_new id_new size_lt =>
      exact ⟨size_lt, (h.add tag_ne tag_new id_new size_lt).add_placed size_lt⟩
  no_overflow := by
    intro id s max hr
    have hcase := h.registration id s
    rw [hr] at hcase
    cases hcase
  full := by
    intro hfull id s
    have hcase := h.registration id s
    generalize r.register id s = result at hcase ⊢
    cases hcase with
    | untagged tag_eq => exact .inl ⟨tag_eq, rfl⟩
    | tagTaken tag_ne mem tag_eq => exact .inr (.inl ⟨_, mem, tag_eq, rfl⟩)
    | idTaken tag_ne tag_new mem id_eq => exact .inr (.inr ⟨_, mem, id_eq, rfl⟩)
    | added tag_ne tag_new id_new size_lt => exact absurd hfull (Nat.ne_of_lt size_lt)

end Registry

namespace ProcessorBuilder

open Registry

variable {b b' : ProcessorBuilder P}

/-- An identifier has no more than sixteen bits, and the table grows for identifiers only. -/
theorem Change.cells_le {st : ConfigStep P} (h : Change b st b')
    (hb : b.registry.slotsById.size ≤ maxMessages) :
    b'.registry.slotsById.size ≤ maxMessages := by
  cases h with
  | byteOrder order => exact hb
  | @entry id s tag_ne tag_new id_new size_lt =>
    change (putSlot b.registry.slotsById id.toNat _).size ≤ maxMessages
    rw [size_putSlot]
    exact Nat.max_le.mpr ⟨hb, id.toNat_lt⟩
  | party attachment at_slot of_entry => exact hb

/-! ## Full registries -/

/-- One type out of many, no two of which have the same tag. -/
def numbered (n : Nat) : Schema where
  typeName := "Numbered"
  tag := String.ofList (List.replicate (n + 1) 'n')
  format := .binary
  shape := .unit "Numbered"

/-- Registers that many types, each under its own number. -/
def fill (n : Nat) : List (ConfigStep P) :=
  (List.range n).map fun i => .register (UInt16.ofNat i) (numbered i)

theorem numbered_tag_ne (n : Nat) : (numbered n).tag ≠ "" := by
  intro h
  have hlength := congrArg String.length h
  rw [numbered, String.length_ofList, List.length_replicate] at hlength
  cases hlength

theorem numbered_tag_inj {m n : Nat} (h : (numbered m).tag = (numbered n).tag) : m = n := by
  have hlength := congrArg String.length h
  rw [numbered, numbered, String.length_ofList, String.length_ofList, List.length_replicate,
    List.length_replicate] at hlength
  exact Nat.succ.inj hlength

theorem entries_fill {n : Nat} (h : n ≤ maxMessages) :
    ((new : ProcessorBuilder P).run (fill n)).registry.entries =
      (List.range n).map fun i => Entry.new (UInt16.ofNat i) (numbered i) := by
  induction n with
  | zero => rfl
  | succ n ih =>
    have hentries := ih (Nat.le_of_lt h)
    have hvalid : ((new : ProcessorBuilder P).run (fill n)).registry.Valid :=
      (records_new.run (fill n)).valid
    have hsize : ((new : ProcessorBuilder P).run (fill n)).registry.size < maxMessages := by
      rw [size, hentries, List.length_map, List.length_range]
      exact h
    -- The next type and the next identifier are not among those that came before.
    have hnew : ∀ e ∈ ((new : ProcessorBuilder P).run (fill n)).registry.entries,
        e.tag ≠ (numbered n).tag ∧ e.id ≠ UInt16.ofNat n := by
      intro e he
      rw [hentries] at he
      obtain ⟨i, hi, rfl⟩ := List.mem_map.mp he
      have hlt := List.mem_range.mp hi
      constructor
      · intro htag
        exact Nat.ne_of_lt hlt (numbered_tag_inj htag)
      · intro hid
        have hnat := congrArg UInt16.toNat hid
        rw [Entry.new, UInt16.toNat_ofNat_of_lt' (Nat.lt_trans hlt h),
          UInt16.toNat_ofNat_of_lt' h] at hnat
        exact Nat.ne_of_lt hlt hnat
    have hstep := Change.step_eq (.entry (numbered_tag_ne n) (fun e he => (hnew e he).1)
      (fun e he => (hnew e he).2) hsize) hvalid
    rw [fill, List.range_succ, List.map_append, run_append, ← fill, List.map_append,
      ← hentries]
    exact congrArg (fun b => b.registry.entries) (run_cons_of_ok hstep []).1

/-- However much is registered, and whatever fails on the way: there is a place for every entry, and
each has its own; the limit on the number of entries is reached only when there is no identifier
left, and is no reason to refuse anything. It can be reached. -/
theorem capacity_of_run :
    (∀ steps : List (ConfigStep P), (new.run steps).registry.Capacity) ∧
    ∀ n ≤ maxMessages, ∃ steps : List (ConfigStep P), (new.run steps).registry.size = n := by
  constructor
  · intro steps
    have h : (new.run steps).registry.Valid ∧
        (new.run steps).registry.slotsById.size ≤ maxMessages := by
      refine @run_induction P new
        (fun _ b => b.registry.Valid ∧ b.registry.slotsById.size ≤ maxMessages) ?_ []
        ⟨valid_empty, Nat.zero_le _⟩ steps
      intro done b b' st hb hst
      have hchange := change_of_step hb.1 hst
      exact ⟨hchange.valid hb.1, hchange.cells_le hb.2⟩
    exact h.1.capacity h.2
  · intro n hn
    refine ⟨fill n, ?_⟩
    rw [size, entries_fill hn, List.length_map, List.length_range]

/-- A registry that is full, with what then holds of it. -/
theorem capacity_of_full :
    maxMessages ≤ maxMessages ∧ ∃ steps : List (ConfigStep Unit),
      (new.run steps).registry.size = maxMessages ∧ (new.run steps).registry.Capacity := by
  obtain ⟨hcapacity, hreached⟩ := capacity_of_run (P := Unit)
  obtain ⟨steps, hsize⟩ := hreached maxMessages (Nat.le_refl _)
  exact ⟨Nat.le_refl _, steps, hsize, hcapacity steps⟩

end ProcessorBuilder

end Switchboard
