import Switchboard.Proofs.Payload.Basic

/-!
# What can be written in JSON

A map with keys that are not texts cannot be written unless it is empty, and everything else can.
Nothing is read that could not be written: a reader gives no entry for a key that is not a text.
-/

namespace Switchboard

/-- Something is made of a list if something is made of every item. -/
theorem isSome_mapM_iff {α β : Type} {f : α → Option β} {as : List α} :
    (as.mapM f).isSome ↔ ∀ a ∈ as, (f a).isSome := by
  induction as with
  | nil => simp
  | cons a as ih =>
    rw [List.mapM_cons, List.forall_mem_cons, ← ih]
    rcases f a with _ | b
    · simp
    · rcases as.mapM f with _ | bs <;> simp

namespace Json

variable {α β σ : Type} {P : α → Prop} {Q : β → Prop} {item : Reader α}

/-- Whether every value that a reader gives satisfies `P`. -/
def Yields (r : Reader α) (P : α → Prop) : Prop :=
  ∀ ⦃bs a rest⦄, r bs = .ok (a, rest) → P a

/-! ## What the readers give -/

theorem unexpected_ne_ok {expected : String} {bs : Bytes} {a : α} :
    unexpected expected bs ≠ .ok a := by
  intro h
  unfold unexpected at h
  split at h
  · cases h
  · dsimp only at h
    split at h
    · obtain ⟨_, _, h⟩ := bind_eq_ok_iff.mp h
      cases h
    · split at h
      · obtain ⟨_, _, h⟩ := bind_eq_ok_iff.mp h
        cases h
      · split at h
        · obtain ⟨_, _, h⟩ := bind_eq_ok_iff.mp h
          cases h
        · split at h
          · cases h
          · split at h <;> cases h

theorem Yields.option (h : Yields item P) : Yields (readOption item) fun o => ∀ a ∈ o, P a := by
  intro bs o rest ho
  unfold readOption at ho
  split at ho
  · obtain ⟨_, _, ho⟩ := bind_eq_ok_iff.mp ho
    cases ho
    exact nofun
  · obtain ⟨⟨a, _⟩, ha, ho⟩ := bind_eq_ok_iff.mp ho
    cases ho
    rintro _ ⟨⟩
    exact h ha

theorem forall_of_readItems (h : Yields item P) {fuel : Nat} {first : Bool} {bs rest : Bytes}
    {as : List α} (has : readItems item fuel first bs = .ok (as, rest)) : ∀ a ∈ as, P a := by
  induction fuel generalizing first bs as with
  | zero => cases has
  | succ fuel ih =>
    obtain ⟨⟨more, tail⟩, -, has⟩ := bind_eq_ok_iff.mp has
    cases more with
    | false =>
      cases has
      exact nofun
    | true =>
      obtain ⟨⟨a, _⟩, ha, has⟩ := bind_eq_ok_iff.mp has
      obtain ⟨⟨as, _⟩, hmore, has⟩ := bind_eq_ok_iff.mp has
      cases has
      exact List.forall_mem_cons.mpr ⟨h ha, ih hmore⟩

theorem Yields.list (h : Yields item P) : Yields (readList item) fun as => ∀ a ∈ as, P a := by
  intro bs as rest has
  unfold readList at has
  split at has
  · obtain ⟨⟨as, _⟩, hitems, has⟩ := bind_eq_ok_iff.mp has
    obtain ⟨_, _, has⟩ := bind_eq_ok_iff.mp has
    cases has
    exact forall_of_readItems h hitems
  · exact absurd has unexpected_ne_ok

/-- What every entry keeps holds when all are read. -/
theorem invariant_of_readEntries {I : σ → Prop} {entry : String → σ → Reader σ}
    (hentry : ∀ key s, I s → Yields (entry key s) I) {fuel : Nat} {first : Bool} {s t : σ}
    {bs rest : Bytes} (hs : I s) (ht : readEntries entry fuel first s bs = .ok (t, rest)) : I t := by
  induction fuel generalizing first s bs with
  | zero => cases ht
  | succ fuel ih =>
    obtain ⟨⟨more, _⟩, -, ht⟩ := bind_eq_ok_iff.mp ht
    cases more with
    | false =>
      cases ht
      exact hs
    | true =>
      obtain ⟨⟨key, _⟩, -, ht⟩ := bind_eq_ok_iff.mp ht
      obtain ⟨⟨u, _⟩, hu, ht⟩ := bind_eq_ok_iff.mp ht
      exact ih (hentry key s hs hu) ht

/-- Only a key that can be written is read. -/
theorem isSome_writeKey?_of_readKey : (k : KeyShape) → {text : String} → {rest : Bytes} →
    {key : k.Key} → readKey k text rest = .ok key → (writeKey? k key).isSome
  | .text, _, _, _, _ => rfl
  | .pair, _, _, _, h => by cases h

theorem Yields.map {k : KeyShape} (h : Yields item P) :
    Yields (readMap k item) fun t => ∀ e ∈ t.entries, (writeKey? k e.1).isSome ∧ P e.2 := by
  intro bs t rest ht
  unfold readMap at ht
  split at ht
  · obtain ⟨⟨t, _⟩, hentries, ht⟩ := bind_eq_ok_iff.mp ht
    obtain ⟨_, _, ht⟩ := bind_eq_ok_iff.mp ht
    cases ht
    refine invariant_of_readEntries
      (I := fun t => ∀ e ∈ t.entries, (writeKey? k e.1).isSome ∧ P e.2) ?_ nofun hentries
    intro text t hold bs u rest hu
    obtain ⟨key, hkey, hu⟩ := bind_eq_ok_iff.mp hu
    obtain ⟨_, _, hu⟩ := bind_eq_ok_iff.mp hu
    obtain ⟨⟨a, _⟩, ha, hu⟩ := bind_eq_ok_iff.mp hu
    cases hu
    -- An entry is the one just read, or an older one.
    intro e he
    rcases Table.mem_insertEntry he with rfl | he
    · exact ⟨isSome_writeKey?_of_readKey k hkey, h ha⟩
    · exact hold e he
  · exact absurd ht unexpected_ne_ok

theorem Yields.required (h : Yields item P) (length : Nat) (expected : String) :
    Yields (readRequired item length expected) P := by
  intro bs a rest ha
  obtain ⟨⟨more, _⟩, -, ha⟩ := bind_eq_ok_iff.mp ha
  cases more with
  | false => cases ha
  | true => exact h ha

theorem Yields.pair {second : Reader β} (ha : Yields item P) (hb : Yields second Q) :
    Yields (readPair item second) fun p => P p.1 ∧ Q p.2 := by
  intro bs p rest hp
  unfold readPair at hp
  split at hp
  · obtain ⟨⟨a, _⟩, hfirst, hp⟩ := bind_eq_ok_iff.mp hp
    obtain ⟨⟨b, _⟩, hsecond, hp⟩ := bind_eq_ok_iff.mp hp
    obtain ⟨_, _, hp⟩ := bind_eq_ok_iff.mp hp
    cases hp
    exact ⟨ha.required _ _ hfirst, hb.required _ _ hsecond⟩
  · exact absurd hp unexpected_ne_ok

theorem Yields.record {what : String} {fs : Fields} {P : fs.Val → Prop} {I : fs.Partial → Prop}
    {entry : String → fs.Partial → Reader fs.Partial} {items : Nat → String → Reader fs.Val}
    (hitems : ∀ length expected, Yields (items length expected) P)
    (hentry : ∀ key p, I p → Yields (entry key p) I) (hunread : I fs.unread)
    (hcomplete : ∀ p v, I p → fs.complete p = .ok v → P v) :
    Yields (readRecord what fs entry items) P := by
  intro bs v rest hv
  unfold readRecord at hv
  split at hv
  · obtain ⟨⟨v, _⟩, hread, hv⟩ := bind_eq_ok_iff.mp hv
    obtain ⟨_, _, hv⟩ := bind_eq_ok_iff.mp hv
    cases hv
    exact hitems _ _ hread
  · obtain ⟨⟨p, _⟩, hread, hv⟩ := bind_eq_ok_iff.mp hv
    have hp := invariant_of_readEntries hentry hunread hread
    dsimp only at hv
    split at hv
    · next w hw =>
      obtain ⟨_, _, hv⟩ := bind_eq_ok_iff.mp hv
      cases hv
      exact hcomplete p _ hp hw
    · cases hv
  · exact absurd hv unexpected_ne_ok

theorem Yields.choice {variant : String → Bool → Reader α}
    (h : ∀ name filled, Yields (variant name filled) P) : Yields (readChoice variant) P := by
  intro bs a rest ha
  unfold readChoice at ha
  split at ha
  · cases ha
  · split at ha
    · obtain ⟨_, _, ha⟩ := bind_eq_ok_iff.mp ha
      exact h _ _ ha
    · split at ha
      · obtain ⟨_, _, ha⟩ := bind_eq_ok_iff.mp ha
        obtain ⟨⟨a, _⟩, hread, ha⟩ := bind_eq_ok_iff.mp ha
        obtain ⟨_, _, ha⟩ := bind_eq_ok_iff.mp ha
        cases ha
        exact h _ _ hread
      · cases ha

theorem Yields.contents (h : Yields item P) (filled : Bool) (expected : String) :
    Yields (readContents filled expected item) P := by
  intro bs a rest ha
  cases filled with
  | false => cases ha
  | true =>
    obtain ⟨_, _, ha⟩ := bind_eq_ok_iff.mp ha
    exact h ha

end Json

open Json

/-! ## Whatever is read can be written -/

namespace Fields

/-- Whether all fields read so far can be written. -/
def PartlyWritable : (fs : Fields) → fs.Partial → Prop
  | .nil, _ => True
  | .cons _ s rest, p => (∀ v ∈ p.1, (s.toJson? v).isSome) ∧ rest.PartlyWritable p.2

theorem partlyWritable_unread : (fs : Fields) → fs.PartlyWritable fs.unread
  | .nil => trivial
  | .cons _ _ rest => ⟨nofun, rest.partlyWritable_unread⟩

theorem isSome_toJson?_cons {name : String} {s : Shape} {rest : Fields} {v : s.Val × rest.Val} :
    ((Fields.cons name s rest).toJson? v).isSome ↔
      (s.toJson? v.1).isSome ∧ (rest.toJson? v.2).isSome := by
  show ((s.toJson? v.1).bind fun value => (rest.toJson? v.2).bind fun more =>
    some ((writeText name, value) :: more)).isSome ↔ _
  rcases s.toJson? v.1 with _ | value
  · simp
  · rcases rest.toJson? v.2 with _ | more <;> simp

theorem isSome_toJson?_of_absent? {s : Shape} {v : s.Val} (h : s.absent? = some v) :
    (s.toJson? v).isSome := by
  cases s <;> cases h
  rfl

theorem isSome_toJson?_of_complete : (fs : Fields) → {p : fs.Partial} → {v : fs.Val} →
    fs.PartlyWritable p → fs.complete p = .ok v → (fs.toJson? v).isSome
  | .nil, _, _, _, _ => rfl
  | .cons name s rest, (first, p), v, hp, h => by
    -- A field that was not read is there only if it can do without a value.
    rw [complete] at h
    rcases hmore : rest.complete p with err | vs
    · rw [hmore] at h
      split at h <;> cases h
    · have hvs := rest.isSome_toJson?_of_complete hp.2 hmore
      rw [hmore] at h
      rcases first with _ | w
      · rcases habsent : s.absent? with _ | w
        · rw [habsent] at h
          cases h
        · rw [habsent] at h
          cases h
          exact isSome_toJson?_cons.mpr ⟨isSome_toJson?_of_absent? habsent, hvs⟩
      · cases h
        exact isSome_toJson?_cons.mpr ⟨hp.1 w rfl, hvs⟩

end Fields

theorem Shape.isSome_toJson?_list {s : Shape} {vs : List s.Val} :
    ((Shape.list s).toJson? vs).isSome ↔ ∀ v ∈ vs, (s.toJson? v).isSome := by
  show ((vs.mapM s.toJson?).map writeList).isSome ↔ _
  rw [Option.isSome_map, isSome_mapM_iff]

theorem Shape.isSome_toJson?_map {k : KeyShape} {s : Shape} {t : Table k.order s.Val} :
    ((Shape.map k s).toJson? t).isSome ↔
      ∀ e ∈ t.entries, (writeKey? k e.1).isSome ∧ (s.toJson? e.2).isSome := by
  show (Option.map writeObject (t.entries.mapM _)).isSome ↔ _
  rw [Option.isSome_map, isSome_mapM_iff]
  refine forall₂_congr fun e _ => ?_
  rcases writeKey? k e.1 with _ | key
  · simp
  · rcases s.toJson? e.2 with _ | value <;> simp

/-- Keys that are not texts leave room for the empty map only. -/
theorem Shape.isSome_toJson?_pairs {s : Shape} {t : Table KeyShape.pair.order s.Val} :
    ((Shape.map .pair s).toJson? t).isSome ↔ t.entries = [] := by
  rw [isSome_toJson?_map, List.eq_nil_iff_forall_not_mem]
  constructor
  · intro h e he
    cases (h e he).1
  · intro h e he
    exact absurd he (h e)

theorem Shape.isSome_toJson?_pair {a b : Shape} {v : a.Val × b.Val} :
    ((Shape.pair a b).toJson? v).isSome ↔ (a.toJson? v.1).isSome ∧ (b.toJson? v.2).isSome := by
  show ((a.toJson? v.1).bind fun first => (b.toJson? v.2).bind fun second =>
    some (writeList [first, second])).isSome ↔ _
  rcases a.toJson? v.1 with _ | first
  · simp
  · rcases b.toJson? v.2 with _ | second <;> simp

theorem Shape.isSome_toJson?_record {name : String} {fs : Fields} {v : fs.Val} :
    ((Shape.record name fs).toJson? v).isSome ↔ (fs.toJson? v).isSome := by
  show ((fs.toJson? v).map writeObject).isSome ↔ _
  rw [Option.isSome_map]

mutual

/-- A value that is read can be written. -/
theorem Shape.yields_readJson : (s : Shape) → Yields s.readJson fun v => (s.toJson? v).isSome
  | .bool | .int _ | .char | .text | .unit _ => fun _ _ _ _ => rfl
  | .option s => fun bs v rest h => by
    have hv := s.yields_readJson.option h
    cases v with
    | none => rfl
    | some v => exact hv v rfl
  | .list s => fun bs vs rest h => Shape.isSome_toJson?_list.mpr (s.yields_readJson.list h)
  | .map k s => fun bs t rest h => Shape.isSome_toJson?_map.mpr (s.yields_readJson.map h)
  | .pair a b => fun bs v rest h =>
    Shape.isSome_toJson?_pair.mpr (a.yields_readJson.pair b.yields_readJson h)
  | .record _ fs => fun bs v rest h =>
    Shape.isSome_toJson?_record.mpr (Yields.record fs.yields_readItems fs.yields_readEntry
      fs.partlyWritable_unread (fun _ _ => fs.isSome_toJson?_of_complete) h)
  | .choice name vs =>
    Yields.choice fun variant filled =>
      vs.yields_readNamed name variant filled (.unknownVariant variant vs.names)

/-- Reading one more field keeps all fields writable. -/
theorem Fields.yields_readEntry : (fs : Fields) → (key : String) → (p : fs.Partial) →
    fs.PartlyWritable p → Yields (fs.readEntry key p) fs.PartlyWritable
  | .nil, _, _, _ => fun _ _ _ _ => trivial
  | .cons name s rest, key, (first, p), hp => fun bs q tail h => by
    rw [Fields.readEntry] at h
    dsimp only at h
    split at h
    · split at h
      · cases h
      · obtain ⟨_, _, h⟩ := bind_eq_ok_iff.mp h
        obtain ⟨⟨v, _⟩, hv, h⟩ := bind_eq_ok_iff.mp h
        cases h
        refine ⟨?_, hp.2⟩
        rintro _ ⟨⟩
        exact s.yields_readJson hv
    · obtain ⟨⟨more, _⟩, hmore, h⟩ := bind_eq_ok_iff.mp h
      cases h
      exact ⟨hp.1, rest.yields_readEntry key p hp.2 hmore⟩

theorem Fields.yields_readItems : (fs : Fields) → (length : Nat) → (expected : String) →
    Yields (fs.readItems length expected) fun v => (fs.toJson? v).isSome
  | .nil, _, _ => fun _ _ _ _ => rfl
  | .cons name s rest, length, expected => fun bs v tail h => by
    rw [Fields.readItems] at h
    obtain ⟨⟨v, _⟩, hv, h⟩ := bind_eq_ok_iff.mp h
    obtain ⟨⟨vs, _⟩, hvs, h⟩ := bind_eq_ok_iff.mp h
    cases h
    have hv := s.yields_readJson.required _ _ hv
    have hvs := rest.yields_readItems _ _ hvs
    exact Fields.isSome_toJson?_cons.mpr ⟨hv, hvs⟩

theorem Variants.yields_readNamed : (vs : Variants) → (choice name : String) → (filled : Bool) →
    (unknown : Mismatch) →
      Yields (vs.readNamed choice name filled unknown) fun v => (vs.toJson? v).isSome
  | .nil, _, _, _, _ => fun _ v _ _ => nomatch v
  | .bare n rest, choice, name, filled, unknown => fun bs v tail h => by
    rw [Variants.readNamed] at h
    dsimp only at h
    split at h
    · split at h
      · obtain ⟨_, _, h⟩ := bind_eq_ok_iff.mp h
        obtain ⟨_, _, h⟩ := bind_eq_ok_iff.mp h
        cases h
        rfl
      · cases h
        rfl
    · obtain ⟨⟨v, _⟩, hv, h⟩ := bind_eq_ok_iff.mp h
      cases h
      exact rest.yields_readNamed _ _ _ _ hv
  | .single n s rest, choice, name, filled, unknown => fun bs v tail h => by
    rw [Variants.readNamed] at h
    dsimp only at h
    split at h
    · obtain ⟨⟨v, _⟩, hv, h⟩ := bind_eq_ok_iff.mp h
      cases h
      rw [Variants.toJson?, Option.isSome_map]
      exact s.yields_readJson.contents _ _ hv
    · obtain ⟨⟨v, _⟩, hv, h⟩ := bind_eq_ok_iff.mp h
      cases h
      exact rest.yields_readNamed _ _ _ _ hv
  | .fields n fs rest, choice, name, filled, unknown => fun bs v tail h => by
    rw [Variants.readNamed] at h
    dsimp only at h
    split at h
    · obtain ⟨⟨v, _⟩, hv, h⟩ := bind_eq_ok_iff.mp h
      cases h
      rw [Variants.toJson?, Option.isSome_map]
      refine Yields.contents (P := fun v => (fs.toJson? v).isSome) ?_ _ _ hv
      exact Yields.record fs.yields_readItems fs.yields_readEntry fs.partlyWritable_unread
        fun _ _ => fs.isSome_toJson?_of_complete
    · obtain ⟨⟨v, _⟩, hv, h⟩ := bind_eq_ok_iff.mp h
      cases h
      exact rest.yields_readNamed _ _ _ _ hv

end

theorem Shape.isSome_toJson?_of_ofJson {s : Shape} {bs : Bytes} {v : s.Val}
    (h : s.ofJson bs = .ok v) : (s.toJson? v).isSome := by
  obtain ⟨⟨w, rest⟩, hw, h⟩ := bind_eq_ok_iff.mp (mapError_eq_ok_iff.mp h)
  dsimp only at h
  split at h
  · cases h
    exact s.yields_readJson hw
  · cases h

/-! ## What can be written at all -/

mutual

/-- If all keys are texts, every value can be written. -/
theorem Shape.isSome_toJson?_of_hasTextKeys : (s : Shape) → s.hasTextKeys = true → (v : s.Val) →
    (s.toJson? v).isSome
  | .bool, _, _ | .int _, _, _ | .char, _, _ | .text, _, _ | .unit _, _, _ => rfl
  | .option s, hs, v => by
    cases v with
    | none => rfl
    | some v => exact s.isSome_toJson?_of_hasTextKeys hs v
  | .list s, hs, vs =>
    Shape.isSome_toJson?_list.mpr fun v _ => s.isSome_toJson?_of_hasTextKeys hs v
  | .map k s, hs, t => by
    simp only [Shape.hasTextKeys, Bool.and_eq_true, decide_eq_true_eq] at hs
    obtain ⟨rfl, hs⟩ := hs
    exact Shape.isSome_toJson?_map.mpr fun e _ => ⟨rfl, s.isSome_toJson?_of_hasTextKeys hs e.2⟩
  | .pair a b, hs, v => by
    simp only [Shape.hasTextKeys, Bool.and_eq_true] at hs
    exact Shape.isSome_toJson?_pair.mpr
      ⟨a.isSome_toJson?_of_hasTextKeys hs.1 v.1, b.isSome_toJson?_of_hasTextKeys hs.2 v.2⟩
  | .record _ fs, hs, v =>
    Shape.isSome_toJson?_record.mpr (fs.isSome_toJson?_of_hasTextKeys hs v)
  | .choice _ vs, hs, v => vs.isSome_toJson?_of_hasTextKeys hs v

theorem Fields.isSome_toJson?_of_hasTextKeys : (fs : Fields) → fs.hasTextKeys = true →
    (v : fs.Val) → (fs.toJson? v).isSome
  | .nil, _, _ => rfl
  | .cons _ s rest, hs, v => by
    simp only [Fields.hasTextKeys, Bool.and_eq_true] at hs
    exact Fields.isSome_toJson?_cons.mpr
      ⟨s.isSome_toJson?_of_hasTextKeys hs.1 v.1, rest.isSome_toJson?_of_hasTextKeys hs.2 v.2⟩

theorem Variants.isSome_toJson?_of_hasTextKeys : (vs : Variants) → vs.hasTextKeys = true →
    (v : vs.Val) → (vs.toJson? v).isSome
  | .nil, _, v => nomatch v
  | .bare _ rest, hs, v => by
    rcases v with _ | v
    · rfl
    · exact rest.isSome_toJson?_of_hasTextKeys hs v
  | .single _ s rest, hs, v => by
    simp only [Variants.hasTextKeys, Bool.and_eq_true] at hs
    rcases v with v | v
    · rw [Variants.toJson?, Option.isSome_map]
      exact s.isSome_toJson?_of_hasTextKeys hs.1 v
    · exact rest.isSome_toJson?_of_hasTextKeys hs.2 v
  | .fields _ fs rest, hs, v => by
    simp only [Variants.hasTextKeys, Bool.and_eq_true] at hs
    rcases v with v | v
    · rw [Variants.toJson?, Option.isSome_map]
      exact fs.isSome_toJson?_of_hasTextKeys hs.1 v
    · exact rest.isSome_toJson?_of_hasTextKeys hs.2 v

end

end Switchboard
