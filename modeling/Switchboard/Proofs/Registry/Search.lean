import Switchboard.Proofs.Processor.History

/-!
# Looking up is a search

The list of entries says everything about a registry; its two tables only save the search. Whatever
was registered and attached, and whichever of these changes failed, every place that stands in a
table is the place of an entry with the key under which it stands, also in the cells that no lookup
reads. Both lookups then find what a search of the list finds.
-/

namespace Switchboard

variable {P : Type}

namespace IsIndex

variable {K : Type} {key : Entry P → K} {entries : List (Entry P)} {table : K → Option UInt16}

theorem keys_nodup (h : IsIndex key entries table) (hsize : entries.length ≤ maxMessages) :
    (entries.map key).Nodup := by
  refine List.pairwise_map.mpr (List.pairwise_iff_getElem.mpr ?_)
  intro i j hi hj hij heq
  -- Two places with the same key would be the same place.
  have hplace := h.place_inj hsize (List.getElem?_eq_getElem hi) (List.getElem?_eq_getElem hj) heq
  exact Nat.ne_of_lt hij hplace

/-- An index saves the search of the list. -/
theorem find_eq_find? [DecidableEq K] (h : IsIndex key entries table)
    (hsize : entries.length ≤ maxMessages) (k : K) :
    ((table k).bind fun slot => entries[slot.toNat]?) = entries.find? fun e => key e = k := by
  rcases hfind : entries.find? fun e => key e = k with _ | e
  · refine (h.find_eq_none_iff hsize).mpr ?_
    intro e he heq
    exact List.find?_eq_none.mp hfind e he (decide_eq_true heq)
  · refine (h.find_eq_some_iff hsize).mpr ⟨List.mem_of_find?_eq_some hfind, ?_⟩
    simpa using List.find?_some hfind

/-- A place that an index gives is one of the list. -/
theorem isSome_find (h : IsIndex key entries table) (k : K) :
    ((table k).bind fun slot => entries[slot.toNat]?).isSome = (table k).isSome := by
  rcases ht : table k with _ | slot
  · rfl
  · obtain ⟨e, he, -⟩ := Option.map_eq_some_iff.mp ((h k slot).mp ht)
    rw [Option.bind_some, he]
    rfl

end IsIndex

namespace Registry

variable {r : Registry P}

/-! ## What stands in the tables -/

/-- Every place that stands in a table is that of an entry with the key under which it stands. -/
structure Filled (r : Registry P) : Prop where
  byId : ∀ (i : Nat) (slot : UInt16), r.slotsById[i]?.join = some slot →
    r.entries[slot.toNat]?.map (fun e => e.id.toNat) = some i
  byTag : ∀ p ∈ r.slotsByTag, r.entries[p.2.toNat]?.map Entry.tag = some p.1

theorem filled_empty : (empty : Registry P).Filled where
  byId := by
    intro i slot h
    simp [empty] at h
  byTag := nofun

theorem lt_size_of_map {K : Type} {key : Entry P → K} {i : Nat} {k : K}
    (h : r.entries[i]?.map key = some k) : i < r.size := by
  obtain ⟨e, he, -⟩ := Option.map_eq_some_iff.mp h
  exact (List.getElem?_eq_some_iff.mp he).1

theorem map_getElem?_add {K : Type} {key : Entry P → K} {i : Nat} {k : K}
    (h : r.entries[i]?.map key = some k) (id : MessageId) (s : Schema) :
    (r.add id s).entries[i]?.map key = some k := by
  rw [add, List.getElem?_append_left (lt_size_of_map h)]
  exact h

/-- The place that is written down for a new entry is its own. -/
theorem getElem?_add_new (hsize : r.size < maxMessages) (id : MessageId) (s : Schema) :
    (r.add id s).entries[(UInt16.ofNat r.size).toNat]? = some (Entry.new id s) := by
  have hexact : (UInt16.ofNat r.size).toNat = r.size := UInt16.toNat_ofNat_of_lt' hsize
  rw [hexact]
  exact List.getElem?_concat_length

theorem Filled.add (h : r.Filled) (hsize : r.size < maxMessages) (id : MessageId) (s : Schema) :
    (r.add id s).Filled where
  byId := by
    intro i slot hcell
    change (putSlot r.slotsById id.toNat _)[i]?.join = some slot at hcell
    -- Growing the table fills in empty cells only, so a place is the new one or an old one.
    rw [join_putSlot] at hcell
    split at hcell
    · next hi =>
      cases hcell
      rw [getElem?_add_new hsize, hi]
      rfl
    · exact map_getElem?_add (h.byId i slot hcell) id s
  byTag := by
    intro p hp
    rcases List.mem_cons.mp hp with rfl | hp
    · rw [getElem?_add_new hsize]
      rfl
    · exact map_getElem?_add (h.byTag p hp) id s

/-- Attaching leaves the keys of all entries as they are. -/
theorem map_getElem?_put {K : Type} {key : Entry P → K} (r : Registry P) (slot : UInt16)
    (seat : Seat) (p : P) (hkey : ∀ e, key (e.put seat p) = key e) (i : Nat) :
    (r.modifyAt slot (Entry.put seat p)).entries[i]?.map key = r.entries[i]?.map key := by
  rw [getElem?_modifyAt]
  split
  · rw [Option.map_map]
    exact congrArg (Option.map · _) (funext hkey)
  · rfl

theorem Filled.put (h : r.Filled) (slot : UInt16) (seat : Seat) (p : P) :
    (r.modifyAt slot (Entry.put seat p)).Filled where
  byId := by
    intro i other hcell
    have hkey (e : Entry P) : (e.put seat p).id.toNat = e.id.toNat :=
      congrArg UInt16.toNat (Entry.put_id seat p e)
    exact (map_getElem?_put r slot seat p hkey _).trans (h.byId i other hcell)
  byTag := by
    intro q hq
    have hkey (e : Entry P) : (e.put seat p).tag = e.tag :=
      congrArg Schema.tag (Entry.put_schema seat p e)
    exact (map_getElem?_put r slot seat p hkey _).trans (h.byTag q hq)

/-! ## Searching the list -/

/-- What the tables of a registry are worth: they agree with its list of entries. -/
structure Indexed (r : Registry P) : Prop where
  tag_ne : ∀ e ∈ r.entries, e.tag ≠ ""
  tags_distinct : (r.entries.map Entry.tag).Nodup
  ids_distinct : (r.entries.map Entry.id).Nodup
  /-- An identifier leads to the only entry that has it. -/
  byId : ∀ id e, r.byId? id = some e ↔
    e ∈ r.entries ∧ e.id = id ∧ ∀ d ∈ r.entries, d.id = id → d = e
  /-- A tag leads to the only entry that has it. -/
  byTag : ∀ tag e, r.byTag? tag = some e ↔
    e ∈ r.entries ∧ e.tag = tag ∧ ∀ d ∈ r.entries, d.tag = tag → d = e
  /-- Both tables lead to the same entries. -/
  inverse : ∀ e ∈ r.entries, r.byTag? e.tag = some e ∧ r.byId? e.id = some e
  /-- No place in a table is behind the end of the list. -/
  slotsById_lt : ∀ (i : Nat) (slot : UInt16),
    r.slotsById[i]? = some (some slot) → slot.toNat < r.size
  slotsByTag_lt : ∀ p ∈ r.slotsByTag, p.2.toNat < r.size
  /-- Where a table gives a place there is an entry. -/
  isSome_byId : ∀ id, (r.byId? id).isSome = (r.slotOfId? id).isSome
  isSome_byTag : ∀ tag, (r.byTag? tag).isSome = (r.slotOfTag? tag).isSome
  /-- Looking up finds what a search of the list finds. -/
  byId_eq_find : ∀ id, r.byId? id = r.entries.find? fun e => e.id = id
  byTag_eq_find : ∀ tag, r.byTag? tag = r.entries.find? fun e => e.tag = tag
  /-- The same holds of a search of the identifiers and tags alone. -/
  byId_range : ∀ id, (r.byId? id).map (fun e => (e.id, e.tag)) = r.range.find? fun p => p.1 = id
  byTag_range : ∀ tag,
    (r.byTag? tag).map (fun e => (e.id, e.tag)) = r.range.find? fun p => p.2 = tag

theorem Valid.byId?_eq_find (h : r.Valid) (id : MessageId) :
    r.byId? id = r.entries.find? fun e => e.id = id :=
  h.byId.find_eq_find? h.size_le id

theorem Valid.byTag?_eq_find (h : r.Valid) (tag : String) :
    r.byTag? tag = r.entries.find? fun e => e.tag = tag :=
  h.byTag.find_eq_find? h.size_le tag

theorem Valid.indexed (h : r.Valid) (hfilled : r.Filled) : r.Indexed where
  tag_ne := h.tag_ne
  tags_distinct := h.byTag.keys_nodup h.size_le
  ids_distinct := h.byId.keys_nodup h.size_le
  byId := by
    intro id e
    rw [h.byId?_eq_some_iff]
    constructor
    · rintro ⟨he, hid⟩
      exact ⟨he, hid, fun d hd hdid => h.eq_of_id hd he (hdid.trans hid.symm)⟩
    · rintro ⟨he, hid, -⟩
      exact ⟨he, hid⟩
  byTag := by
    intro tag e
    rw [h.byTag?_eq_some_iff]
    constructor
    · rintro ⟨he, htag⟩
      exact ⟨he, htag, fun d hd hdtag => h.eq_of_tag hd he (hdtag.trans htag.symm)⟩
    · rintro ⟨he, htag, -⟩
      exact ⟨he, htag⟩
  inverse := by
    intro e he
    exact ⟨h.byTag?_eq_some_iff.mpr ⟨he, rfl⟩, h.byId?_eq_some_iff.mpr ⟨he, rfl⟩⟩
  slotsById_lt := by
    intro i slot hcell
    have hjoin : r.slotsById[i]?.join = some slot := by rw [hcell]; rfl
    exact lt_size_of_map (hfilled.byId i slot hjoin)
  slotsByTag_lt := by
    intro p hp
    exact lt_size_of_map (hfilled.byTag p hp)
  isSome_byId := h.byId.isSome_find
  isSome_byTag := h.byTag.isSome_find
  byId_eq_find := h.byId?_eq_find
  byTag_eq_find := h.byTag?_eq_find
  byId_range := by
    intro id
    rw [range, List.find?_map, h.byId?_eq_find]
    rfl
  byTag_range := by
    intro tag
    rw [range, List.find?_map, h.byTag?_eq_find]
    rfl

end Registry

/-! ## Along a configuration -/

namespace ProcessorBuilder

open Registry

variable {b b' : ProcessorBuilder P}

theorem Change.filled {st : ConfigStep P} (h : Change b st b') (hb : b.registry.Filled) :
    b'.registry.Filled := by
  cases h with
  | byteOrder order => exact hb
  | @entry id s tag_ne tag_new id_new size_lt => exact hb.add size_lt id s
  | @party _ seat p slot e attachment at_slot of_entry => exact hb.put slot seat p

/-- Whatever is registered and attached, in any order and with any failures in between, the tables
of a registry agree with its list of entries: looking up is a search, and cannot miss the list. -/
theorem indexed_of_run (steps : List (ConfigStep P)) : (new.run steps).registry.Indexed := by
  have h : (new.run steps).registry.Valid ∧ (new.run steps).registry.Filled := by
    refine @run_induction P new (fun _ b => b.registry.Valid ∧ b.registry.Filled) ?_ []
      ⟨valid_empty, filled_empty⟩ steps
    intro done b b' st hb hst
    have hchange := change_of_step hb.1 hst
    exact ⟨hchange.valid hb.1, hchange.filled hb.2⟩
  exact h.1.indexed h.2

end ProcessorBuilder

end Switchboard
