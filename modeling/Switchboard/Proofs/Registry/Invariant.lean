import Switchboard.Registry

/-!
# What holds of every registry

The two tables of a registry are indexes of its list of entries: each points to the entry with the
key that is asked for, and to nothing else. A registry that is only ever changed by registering and
attaching keeps them so, whichever of its changes fail. Looking up is then a search of the list.
-/

namespace Switchboard

/-! ## Indexes -/

section Index

variable {P K : Type}

/-- Whether a table finds, for every key, the place of the entry that has it. -/
def IsIndex (key : Entry P → K) (entries : List (Entry P)) (table : K → Option UInt16) : Prop :=
  ∀ k slot, table k = some slot ↔ entries[slot.toNat]?.map key = some k

namespace IsIndex

variable {key : Entry P → K} {entries : List (Entry P)} {table : K → Option UInt16}

/-- No two entries have the same key. -/
theorem place_inj (h : IsIndex key entries table) (hsize : entries.length ≤ maxMessages)
    {i j : Nat} {e e' : Entry P} (hi : entries[i]? = some e) (hj : entries[j]? = some e')
    (hkey : key e = key e') : i = j := by
  -- There are never more places than slots, so every place is written down exactly.
  have place : ∀ {n : Nat} {d : Entry P}, entries[n]? = some d → key d = key e' →
      table (key e') = some (UInt16.ofNat n) ∧ (UInt16.ofNat n).toNat = n := by
    intro n d hn hd
    obtain ⟨hlt, -⟩ := List.getElem?_eq_some_iff.mp hn
    have hexact : (UInt16.ofNat n).toNat = n :=
      UInt16.toNat_ofNat_of_lt' (Nat.lt_of_lt_of_le hlt hsize)
    refine ⟨(h _ _).mpr ?_, hexact⟩
    rw [hexact, hn, Option.map_some, hd]
  obtain ⟨hti, hni⟩ := place hi hkey
  obtain ⟨htj, hnj⟩ := place hj rfl
  have hslot := Option.some.inj (hti.symm.trans htj)
  rw [← hni, ← hnj, hslot]

/-- What a table finds is what a search of the list finds. -/
theorem find_eq_some_iff (h : IsIndex key entries table) (hsize : entries.length ≤ maxMessages)
    {k : K} {e : Entry P} :
    ((table k).bind fun slot => entries[slot.toNat]?) = some e ↔ e ∈ entries ∧ key e = k := by
  rw [Option.bind_eq_some_iff]
  constructor
  · rintro ⟨slot, hslot, he⟩
    have hkey := (h k slot).mp hslot
    rw [he] at hkey
    exact ⟨List.mem_of_getElem? he, Option.some.inj hkey⟩
  · rintro ⟨hmem, rfl⟩
    obtain ⟨i, hi⟩ := List.mem_iff_getElem?.mp hmem
    obtain ⟨hlt, -⟩ := List.getElem?_eq_some_iff.mp hi
    have hexact : (UInt16.ofNat i).toNat = i :=
      UInt16.toNat_ofNat_of_lt' (Nat.lt_of_lt_of_le hlt hsize)
    refine ⟨UInt16.ofNat i, (h _ _).mpr ?_, ?_⟩
    · rw [hexact, hi, Option.map_some]
    · rw [hexact, hi]

theorem find_eq_none_iff (h : IsIndex key entries table) (hsize : entries.length ≤ maxMessages)
    {k : K} :
    ((table k).bind fun slot => entries[slot.toNat]?) = none ↔ ∀ e ∈ entries, key e ≠ k := by
  rw [Option.eq_none_iff_forall_ne_some]
  constructor
  · intro hnone e he heq
    exact hnone e ((h.find_eq_some_iff hsize).mpr ⟨he, heq⟩)
  · intro hnone e he
    obtain ⟨hmem, heq⟩ := (h.find_eq_some_iff hsize).mp he
    exact hnone e hmem heq

/-- A table that finds nothing under a key points nowhere under it. -/
theorem eq_none_of_find (h : IsIndex key entries table) {k : K}
    (hk : ((table k).bind fun slot => entries[slot.toNat]?) = none) : table k = none := by
  rcases ht : table k with _ | slot
  · rfl
  · have hkey := (h k slot).mp ht
    rw [ht, Option.bind_some] at hk
    rw [hk] at hkey
    cases hkey

/-- Only the keys of the entries matter. -/
theorem congr (h : IsIndex key entries table) {entries' : List (Entry P)}
    (hkeys : ∀ i : Nat, entries'[i]?.map key = entries[i]?.map key) :
    IsIndex key entries' table := by
  intro k slot
  rw [hkeys]
  exact h k slot

/-- An entry with a new key is added at the end. -/
theorem append [DecidableEq K] (h : IsIndex key entries table) (e : Entry P)
    (hsize : entries.length < maxMessages) (hnew : table (key e) = none)
    {table' : K → Option UInt16}
    (htable : ∀ k, table' k = if k = key e then some (UInt16.ofNat entries.length) else table k) :
    IsIndex key (entries ++ [e]) table' := by
  intro k slot
  have hexact : (UInt16.ofNat entries.length).toNat = entries.length :=
    UInt16.toNat_ofNat_of_lt' hsize
  have hnot : entries[slot.toNat]?.map key ≠ some (key e) := by
    intro hold
    have hfound := (h _ _).mpr hold
    rw [hnew] at hfound
    cases hfound
  -- A slot points to an old entry, to the new one or behind the end.
  rw [htable]
  rcases Nat.lt_trichotomy slot.toNat entries.length with hlt | heq | hgt
  · have hne : UInt16.ofNat entries.length ≠ slot := by
      rintro rfl
      omega
    rw [List.getElem?_append_left hlt]
    by_cases hk : k = key e
    · simp [hk, hne, hnot]
    · rw [if_neg hk]
      exact h k slot
  · have hslot : UInt16.ofNat entries.length = slot := UInt16.toNat_inj.mp (hexact.trans heq.symm)
    have hlast : (entries ++ [e])[slot.toNat]? = some e := by
      rw [heq]
      exact List.getElem?_concat_length
    have hbeyond : entries[slot.toNat]? = none := List.getElem?_eq_none (Nat.le_of_eq heq.symm)
    rw [hlast, Option.map_some]
    by_cases hk : k = key e
    · simp [hk, hslot]
    · have hold : table k ≠ some slot := by
        rw [ne_eq, h, hbeyond]
        simp
      simp [hk, hold, Ne.symm hk]
  · have hne : UInt16.ofNat entries.length ≠ slot := by
      rintro rfl
      omega
    have hbeyond : entries[slot.toNat]? = none := List.getElem?_eq_none (Nat.le_of_lt hgt)
    have hbeyond' : (entries ++ [e])[slot.toNat]? = none := by
      refine List.getElem?_eq_none ?_
      rw [List.length_append]
      exact hgt
    have hold : table k ≠ some slot := by
      rw [ne_eq, h, hbeyond]
      simp
    rw [hbeyond']
    by_cases hk : k = key e <;> simp [hk, hne, hold]

end IsIndex

end Index

namespace Registry

variable {P : Type} {r r' : Registry P}

/-- What every registry that was filled by registering and attaching satisfies. -/
structure Valid (r : Registry P) : Prop where
  size_le : r.size ≤ maxMessages
  tag_ne : ∀ e ∈ r.entries, e.tag ≠ ""
  byId : IsIndex Entry.id r.entries r.slotOfId?
  byTag : IsIndex Entry.tag r.entries r.slotOfTag?
  /-- A local handler was written for the type of the entry that it is attached to. -/
  accepts : ∀ e ∈ r.entries, ∀ h, e.handler = some h → h.accepts = e.schema

theorem valid_empty : (empty : Registry P).Valid where
  size_le := Nat.zero_le _
  tag_ne := by
    intro e he
    cases he
  byId := by
    intro id slot
    simp [empty, slotOfId?]
  byTag := by
    intro tag slot
    simp [empty, slotOfTag?]
  accepts := by
    intro e he
    cases he

/-! ## Looking up is a search -/

theorem Valid.byId?_eq_some_iff (h : r.Valid) {id : MessageId} {e : Entry P} :
    r.byId? id = some e ↔ e ∈ r.entries ∧ e.id = id :=
  h.byId.find_eq_some_iff h.size_le

theorem Valid.byTag?_eq_some_iff (h : r.Valid) {tag : String} {e : Entry P} :
    r.byTag? tag = some e ↔ e ∈ r.entries ∧ e.tag = tag :=
  h.byTag.find_eq_some_iff h.size_le

theorem Valid.byId?_eq_none_iff (h : r.Valid) {id : MessageId} :
    r.byId? id = none ↔ ∀ e ∈ r.entries, e.id ≠ id :=
  h.byId.find_eq_none_iff h.size_le

theorem Valid.byTag?_eq_none_iff (h : r.Valid) {tag : String} :
    r.byTag? tag = none ↔ ∀ e ∈ r.entries, e.tag ≠ tag :=
  h.byTag.find_eq_none_iff h.size_le

/-- The entry of a message is the one that was registered for its type. -/
theorem Valid.lookup?_eq_some_iff (h : r.Valid) {m : Message} {e : Entry P} :
    r.lookup? m = some e ↔ e ∈ r.entries ∧ e.schema = m.schema := by
  rw [lookup?, Option.filter_eq_some_iff, h.byTag?_eq_some_iff]
  simp only [Entry.accepts, Message.is, decide_eq_true_eq]
  constructor
  · rintro ⟨⟨hmem, -⟩, hschema⟩
    exact ⟨hmem, hschema.symm⟩
  · rintro ⟨hmem, hschema⟩
    refine ⟨⟨hmem, ?_⟩, hschema.symm⟩
    rw [Entry.tag, hschema, Message.tag]

/-- No two entries have the same identifier. -/
theorem Valid.eq_of_id (h : r.Valid) {e e' : Entry P} (he : e ∈ r.entries) (he' : e' ∈ r.entries)
    (hid : e.id = e'.id) : e = e' := by
  have h₁ := h.byId?_eq_some_iff.mpr ⟨he, hid⟩
  have h₂ := h.byId?_eq_some_iff.mpr ⟨he', rfl⟩
  exact Option.some.inj (h₁.symm.trans h₂)

/-- No two entries have the same tag. -/
theorem Valid.eq_of_tag (h : r.Valid) {e e' : Entry P} (he : e ∈ r.entries) (he' : e' ∈ r.entries)
    (htag : e.tag = e'.tag) : e = e' := by
  have h₁ := h.byTag?_eq_some_iff.mpr ⟨he, htag⟩
  have h₂ := h.byTag?_eq_some_iff.mpr ⟨he', rfl⟩
  exact Option.some.inj (h₁.symm.trans h₂)

/-- The place of the entry that is registered for exactly a schema. -/
theorem Valid.slotOfSchema_eq_ok_iff (h : r.Valid) {s : Schema} {slot : UInt16} :
    r.slotOfSchema s = .ok slot ↔ ∃ e, r.entries[slot.toNat]? = some e ∧ e.schema = s := by
  unfold slotOfSchema
  constructor
  · intro hs
    split at hs
    · cases hs
    · split at hs
      · next e he =>
        split at hs
        · next hschema =>
          cases hs
          exact ⟨e, he, hschema⟩
        · cases hs
      · cases hs
  · rintro ⟨e, he, rfl⟩
    have hslot : r.slotOfTag? e.schema.tag = some slot := by
      rw [h.byTag, he, Option.map_some, Entry.tag]
    rw [hslot]
    simp [he]

theorem Valid.slotOfId?_eq_some_iff (h : r.Valid) {id : MessageId} {slot : UInt16} :
    r.slotOfId? id = some slot ↔ ∃ e, r.entries[slot.toNat]? = some e ∧ e.id = id := by
  rw [h.byId, Option.map_eq_some_iff]

/-! ## Registering -/

theorem join_putSlot (slots : Array (Option UInt16)) (i j : Nat) (slot : UInt16) :
    (putSlot slots i slot)[j]?.join = if j = i then some slot else slots[j]?.join := by
  have hsize : i < (slots ++ Array.replicate (i + 1 - slots.size) none).size := by
    rw [Array.size_append, Array.size_replicate]
    omega
  rw [putSlot, Array.getElem?_setIfInBounds]
  by_cases hj : j = i
  · rw [if_pos hj.symm, if_pos hj, if_pos (hj ▸ hsize)]
    rfl
  · rw [if_neg (Ne.symm hj), if_neg hj, Array.getElem?_append]
    split
    · rfl
    · next hge =>
      -- A cell by which the table grew is as empty as one that was not there.
      rw [Array.getElem?_eq_none (Nat.le_of_not_lt hge), Array.getElem?_replicate]
      split <;> rfl

/-- A registry with one more entry at the end, that nobody is attached to. -/
def add (r : Registry P) (id : MessageId) (s : Schema) : Registry P where
  entries := r.entries ++ [Entry.new id s]
  slotsById := putSlot r.slotsById id.toNat (UInt16.ofNat r.size)
  slotsByTag := (s.tag, UInt16.ofNat r.size) :: r.slotsByTag

/-- What a registration needs, and what it does. -/
theorem register_eq_ok_iff {id : MessageId} {s : Schema} :
    r.register id s = .ok r' ↔
      s.tag ≠ "" ∧ r.byTag? s.tag = none ∧ r.byId? id = none ∧ r.size < maxMessages ∧
        r' = r.add id s := by
  unfold register
  constructor
  · intro hr
    split at hr
    · cases hr
    · next htag =>
      split at hr
      · cases hr
      · next hbyTag =>
        split at hr
        · cases hr
        · next hbyId =>
          split at hr
          · cases hr
          · next hsize =>
            cases hr
            exact ⟨htag, hbyTag, hbyId, Nat.lt_of_not_le hsize, rfl⟩
  · rintro ⟨htag, hbyTag, hbyId, hsize, rfl⟩
    rw [if_neg htag, hbyTag, hbyId]
    exact if_neg (Nat.not_le_of_lt hsize)

theorem Valid.add (h : r.Valid) {id : MessageId} {s : Schema} (htag : s.tag ≠ "")
    (htagNew : ∀ e ∈ r.entries, e.tag ≠ s.tag) (hidNew : ∀ e ∈ r.entries, e.id ≠ id)
    (hsize : r.size < maxMessages) : (r.add id s).Valid where
  size_le := by
    rw [size, Registry.add, List.length_append]
    exact hsize
  tag_ne := by
    intro e he
    rcases List.mem_append.mp he with he | he
    · exact h.tag_ne e he
    · cases List.mem_singleton.mp he
      exact htag
  byId := by
    have hnone := h.byId.eq_none_of_find (h.byId?_eq_none_iff.mpr hidNew)
    refine h.byId.append (Entry.new id s) hsize hnone ?_
    intro id'
    refine (join_putSlot _ _ _ _).trans ?_
    simp only [UInt16.toNat_inj]
    rfl
  byTag := by
    have hnone := h.byTag.eq_none_of_find (h.byTag?_eq_none_iff.mpr htagNew)
    refine h.byTag.append (Entry.new id s) hsize hnone ?_
    intro tag
    show List.lookup tag ((s.tag, _) :: r.slotsByTag) = _
    rw [List.lookup_cons]
    by_cases ht : tag = s.tag
    · rw [beq_iff_eq.mpr ht]
      exact (if_pos ht).symm
    · rw [beq_eq_false_iff_ne.mpr ht]
      exact (if_neg ht).symm
  accepts := by
    intro e he k hk
    rcases List.mem_append.mp he with he | he
    · exact h.accepts e he k hk
    · cases List.mem_singleton.mp he
      cases hk

/-! ## Attaching -/

theorem getElem?_modifyAt (r : Registry P) (slot : UInt16) (f : Entry P → Entry P) (i : Nat) :
    (r.modifyAt slot f).entries[i]? =
      if slot.toNat = i then r.entries[i]?.map f else r.entries[i]? := by
  rw [modifyAt, List.getElem?_modify]
  split
  · rfl
  · rw [Option.map_eq_map, Option.map_id_fun', id]

theorem size_modifyAt (r : Registry P) (slot : UInt16) (f : Entry P → Entry P) :
    (r.modifyAt slot f).size = r.size :=
  List.length_modify _ _ _

/-- An entry may change in everything but its identifier and its schema. -/
theorem Valid.modifyAt (h : r.Valid) {slot : UInt16} {f : Entry P → Entry P}
    (hid : ∀ e, (f e).id = e.id) (hschema : ∀ e, (f e).schema = e.schema)
    (haccepts : ∀ e, r.entries[slot.toNat]? = some e →
      ∀ k, (f e).handler = some k → k.accepts = e.schema) :
    (r.modifyAt slot f).Valid where
  size_le := by
    rw [size_modifyAt]
    exact h.size_le
  tag_ne := by
    intro e he
    obtain ⟨i, hi⟩ := List.mem_iff_getElem?.mp he
    rw [getElem?_modifyAt] at hi
    split at hi
    · obtain ⟨d, hd, rfl⟩ := Option.map_eq_some_iff.mp hi
      rw [Entry.tag, hschema]
      exact h.tag_ne d (List.mem_of_getElem? hd)
    · exact h.tag_ne e (List.mem_of_getElem? hi)
  byId := by
    refine h.byId.congr ?_
    intro i
    rw [getElem?_modifyAt]
    split
    · rw [Option.map_map]
      exact congrArg (Option.map · _) (funext hid)
    · rfl
  byTag := by
    refine h.byTag.congr ?_
    intro i
    rw [getElem?_modifyAt]
    split
    · rw [Option.map_map]
      exact congrArg (Option.map · _) (funext fun e => congrArg Schema.tag (hschema e))
    · rfl
  accepts := by
    intro e he k hk
    obtain ⟨i, hi⟩ := List.mem_iff_getElem?.mp he
    rw [getElem?_modifyAt] at hi
    split at hi
    · next hslot =>
      obtain ⟨d, hd, rfl⟩ := Option.map_eq_some_iff.mp hi
      rw [hschema]
      exact haccepts d (hslot ▸ hd) k hk
    · exact h.accepts e (List.mem_of_getElem? hi) k hk

end Registry

end Switchboard
