import Switchboard.Proofs.Payload.Measured

/-!
# The binary payloads of a type

Reading takes the bytes of the value that it gives off the front of a payload, and no others. So a
payload is read exactly if the bytes of a value stand at its front, and of these values there is
only one. A map is the exception: its entries may come in any order, and more than once.
-/

namespace Switchboard

/-! ## Shapes without maps -/

mutual

/-- Whether there is no map within a shape. -/
def Shape.isMapless : Shape → Bool
  | .bool | .int _ | .char | .text | .unit _ => true
  | .option s | .list s => s.isMapless
  | .map _ _ => false
  | .pair a b => a.isMapless && b.isMapless
  | .record _ fs => fs.isMapless
  | .choice _ vs => vs.isMapless

def Fields.isMapless : Fields → Bool
  | .nil => true
  | .cons _ s rest => s.isMapless && rest.isMapless

def Variants.isMapless : Variants → Bool
  | .nil => true
  | .bare _ rest => rest.isMapless
  | .single _ s rest => s.isMapless && rest.isMapless
  | .fields _ fs rest => fs.isMapless && rest.isMapless

end

namespace Binary

variable {α β : Type} {item : Reader α} {write : α → Bytes}

/-- Whether a reader takes nothing but the bytes of the value that it gives. -/
def Takes (r : Reader α) (write : α → Bytes) : Prop :=
  ∀ ⦃bs : Bytes⦄ ⦃a : α⦄ ⦃rest : Bytes⦄, r bs = .ok (a, rest) → bs = write a ++ rest

/-! ## What the readers take -/

theorem takes_readBool : Takes readBool fun b => [if b then 1 else 0] := by
  intro bs b rest h
  obtain ⟨⟨n, mid⟩, hn, h⟩ := bind_eq_ok_iff.mp h
  have hbytes := (readNat_eq_ok hn).2
  match n, h with
  | 0, h =>
    cases h
    exact hbytes
  | 1, h =>
    cases h
    exact hbytes
  | n + 2, h => cases h

theorem takes_int (k : IntKind) : Takes (Shape.int k).readBinary (Shape.int k).toBinary := by
  intro bs v rest h
  obtain ⟨⟨n, mid⟩, hn, h⟩ := bind_eq_ok_iff.mp h
  cases h
  obtain ⟨hlt, hbytes⟩ := readNat_eq_ok hn
  rw [capacity_width] at hlt
  rw [Shape.toBinary, BitVec.toNat_ofNat, Nat.mod_eq_of_lt hlt]
  exact hbytes

theorem takes_readChar : Takes readChar Utf8.encodeChar := by
  intro bs c rest h
  unfold readChar at h
  split at h
  · next hnext =>
    cases h
    exact Utf8.eq_of_next hnext
  · cases h
  · cases h

theorem takes_readText : Takes readText textBytes := by
  intro bs s rest h
  obtain ⟨⟨n, mid⟩, hn, h⟩ := bind_eq_ok_iff.mp h
  obtain ⟨-, hbytes⟩ := readNat_eq_ok hn
  dsimp only at h
  split at h
  · cases h
  · next text rest' hsplit =>
    obtain ⟨hmid, hlength⟩ := Bytes.split?_eq_some hsplit
    split at h
    · next s' htext =>
      cases h
      rw [textBytes, Utf8.ofString_of_toString? htext, hlength, hbytes, hmid, List.append_assoc]
      rfl
    · cases h

theorem takes_readOption (h : Takes item write) :
    Takes (readOption item) fun o => o.elim [0] fun a => 1 :: write a := by
  intro bs o rest ho
  obtain ⟨⟨n, mid⟩, hn, ho⟩ := bind_eq_ok_iff.mp ho
  have hbytes := (readNat_eq_ok hn).2
  match n, ho with
  | 0, ho =>
    cases ho
    exact hbytes
  | 1, ho =>
    obtain ⟨⟨a, rest'⟩, ha, ho⟩ := bind_eq_ok_iff.mp ho
    cases ho
    exact hbytes.trans (congrArg (1 :: ·) (h ha))
  | n + 2, ho => cases ho

theorem takes_readBoth {first : Reader α} {second : Reader β} {write' : β → Bytes}
    (hfirst : Takes first write) (hsecond : Takes second write') :
    Takes (readBoth first second) fun p => write p.1 ++ write' p.2 := by
  intro bs p rest h
  obtain ⟨mid, ha, hb⟩ := of_readBoth h
  rw [hfirst ha, hsecond hb, List.append_assoc]

theorem takes_readMany (h : Takes item write) (n : Nat) :
    Takes (readMany item n) (List.flatMap write) := by
  intro bs as rest has
  induction n generalizing bs as with
  | zero =>
    cases has
    rfl
  | succ n ih =>
    obtain ⟨⟨a, mid⟩, ha, has⟩ := bind_eq_ok_iff.mp has
    obtain ⟨⟨more, rest'⟩, hmore, has⟩ := bind_eq_ok_iff.mp has
    cases has
    rw [List.flatMap_cons, List.append_assoc, ← ih hmore]
    exact h ha

theorem takes_readCounted (h : Takes item write) :
    Takes (readCounted item) fun as => lengthBytes as.length ++ as.flatMap write := by
  intro bs as rest has
  obtain ⟨⟨n, mid⟩, hn, hmany⟩ := bind_eq_ok_iff.mp has
  obtain ⟨hlength, -⟩ := of_readMany (Q := fun _ => True) (fun _ _ _ _ => trivial) hmany
  show bs = lengthBytes as.length ++ as.flatMap write ++ rest
  rw [hlength, List.append_assoc, ← takes_readMany h n hmany]
  exact (readNat_eq_ok hn).2

/-- The bytes of the alternative with a number, counted from `i`: the number, and contents that
stand at the front of some other bytes. -/
def Picks (bytes : Bytes) (i index : Nat) (bs rest : Bytes) : Prop :=
  ∃ body, bytes = Bytes.ofNat 4 (i + index) ++ body ∧ bs = body ++ rest

theorem Takes.picks (h : Takes item write) {bs rest : Bytes} {a : α}
    (ha : item bs = .ok (a, rest)) (i : Nat) :
    Picks (Bytes.ofNat 4 i ++ write a) i 0 bs rest :=
  ⟨write a, rfl, h ha⟩

/-- One alternative comes before. -/
theorem Picks.next {bytes bs rest : Bytes} {i index : Nat} (h : Picks bytes (i + 1) index bs rest) :
    Picks bytes i (index + 1) bs rest := by
  unfold Picks at h
  rwa [Nat.add_right_comm, Nat.add_assoc] at h

end Binary

open Binary

/-! ## Values -/

mutual

/-- A value is read from its own bytes only. -/
theorem Shape.takes_readBinary : (s : Shape) → s.isMapless = true →
    Takes s.readBinary s.toBinary
  | .bool, _ => takes_readBool
  | .int k, _ => takes_int k
  | .char, _ => takes_readChar
  | .text, _ => takes_readText
  | .unit _, _ => by
    intro bs v rest h
    cases h
    rfl
  | .option s, hs => by
    intro bs v rest h
    have hbytes := takes_readOption (s.takes_readBinary hs) h
    cases v <;> exact hbytes
  | .list s, hs => takes_readCounted (s.takes_readBinary hs)
  | .pair a b, hs => by
    obtain ⟨ha, hb⟩ := Bool.and_eq_true_iff.mp hs
    exact takes_readBoth (a.takes_readBinary ha) (b.takes_readBinary hb)
  | .record _ fs, hs => fs.takes_readBinary hs
  | .choice _ vs, hs => by
    intro bs v rest h
    obtain ⟨⟨n, mid⟩, hn, h⟩ := bind_eq_ok_iff.mp h
    obtain ⟨body, hbody, hmid⟩ := vs.takes_readBinary hs h 0
    rw [Nat.zero_add] at hbody
    rw [Shape.toBinary, hbody, List.append_assoc, ← hmid]
    exact (readNat_eq_ok hn).2

theorem Fields.takes_readBinary : (fs : Fields) → fs.isMapless = true →
    Takes fs.readBinary fs.toBinary
  | .nil, _ => by
    intro bs v rest h
    cases h
    rfl
  | .cons _ s rest, hs => by
    obtain ⟨hitem, hrest⟩ := Bool.and_eq_true_iff.mp hs
    exact takes_readBoth (s.takes_readBinary hitem) (rest.takes_readBinary hrest)

/-- The alternative that is read is the one whose number stands in front. -/
theorem Variants.takes_readBinary : (vs : Variants) → vs.isMapless = true → {index : Nat} →
    {fault : Fault} → {bs rest : Bytes} → {v : vs.Val} →
    vs.readBinary index fault bs = .ok (v, rest) → (i : Nat) →
    Picks (vs.toBinary i v) i index bs rest
  | .nil, _, _, _, _, _, v, _, _ => nomatch v
  | .bare _ rest, _, 0, _, _, _, _, h, i => by
    cases h
    exact ⟨[], (List.append_nil _).symm, rfl⟩
  | .single _ s rest, hs, 0, _, _, _, _, h, i => by
    obtain ⟨⟨v, mid⟩, hv, h⟩ := bind_eq_ok_iff.mp h
    cases h
    exact (s.takes_readBinary (Bool.and_eq_true_iff.mp hs).1).picks hv i
  | .fields _ fs rest, hs, 0, _, _, _, _, h, i => by
    obtain ⟨⟨v, mid⟩, hv, h⟩ := bind_eq_ok_iff.mp h
    cases h
    exact (fs.takes_readBinary (Bool.and_eq_true_iff.mp hs).1).picks hv i
  | .bare _ rest, hs, index + 1, _, _, _, _, h, i => by
    obtain ⟨⟨v, mid⟩, hv, h⟩ := bind_eq_ok_iff.mp h
    cases h
    exact (rest.takes_readBinary hs hv (i + 1)).next
  | .single _ _ rest, hs, index + 1, _, _, _, _, h, i => by
    obtain ⟨⟨v, mid⟩, hv, h⟩ := bind_eq_ok_iff.mp h
    cases h
    exact (rest.takes_readBinary (Bool.and_eq_true_iff.mp hs).2 hv (i + 1)).next
  | .fields _ _ rest, hs, index + 1, _, _, _, _, h, i => by
    obtain ⟨⟨v, mid⟩, hv, h⟩ := bind_eq_ok_iff.mp h
    cases h
    exact (rest.takes_readBinary (Bool.and_eq_true_iff.mp hs).2 hv (i + 1)).next

end

/-- A map with an entry under a key that it had already is read, and is written without it. -/
example : ((Shape.map .pair .u8).readBinary [2, 0, 0, 0, 0, 0, 0, 0, 1, 1, 5, 1, 1, 6]).map
    (fun r => (Shape.map .pair .u8).toBinary r.1) = .ok [1, 0, 0, 0, 0, 0, 0, 0, 1, 1, 6] :=
  rfl

/-! ## Whole payloads -/

namespace Schema

variable {s : Schema} {p : Bytes} {v w : s.Value}

/-- Whether a payload begins with that of a value, whose lengths have to fit. -/
def Begins (s : Schema) (v : s.Value) (p : Bytes) : Prop :=
  s.shape.Fits v ∧ ∃ bs, s.write v = .ok bs ∧ bs <+: p

/-- Whether a value can be read is told by the writer alone. -/
theorem read_eq_ok_iff_begins (hformat : s.format = .binary) (hmapless : s.shape.isMapless = true) :
    s.read p = .ok v ↔ s.Begins v p := by
  rw [read_of_binary hformat]
  constructor
  · rintro ⟨rest, hread⟩
    have hbytes := s.shape.takes_readBinary hmapless hread
    exact ⟨s.shape.fits_of_readBinary hread, _, write_of_binary hformat v, rest, hbytes.symm⟩
  · rintro ⟨hfits, bs, hwrite, rest, rfl⟩
    rw [write_of_binary hformat] at hwrite
    cases hwrite
    exact ⟨rest, s.shape.reads_toBinary v hfits rest⟩

theorem begins_unique (hformat : s.format = .binary) (hmapless : s.shape.isMapless = true)
    (hv : s.Begins v p) (hw : s.Begins w p) : v = w := by
  have hv := (read_eq_ok_iff_begins hformat hmapless).mpr hv
  have hw := (read_eq_ok_iff_begins hformat hmapless).mpr hw
  exact Except.ok.inj (hv.symm.trans hw)

theorem Begins.append (h : s.Begins v p) (more : Bytes) : s.Begins v (p ++ more) := by
  obtain ⟨hfits, bs, hwrite, hfront⟩ := h
  exact ⟨hfits, bs, hwrite, hfront.trans (List.prefix_append p more)⟩

/-- Of a payload in binary it can only be the bytes that are wrong. -/
theorem exists_fault_iff (hformat : s.format = .binary) :
    (∃ fault, s.read p = .error (.binary fault)) ↔ ∀ v, s.read p ≠ .ok v := by
  unfold read
  rw [hformat]
  rcases s.shape.readBinary p with fault | ⟨v, rest⟩
  · simp
  · simp

/-- In a payload that is short enough to be held in memory all lengths fit. -/
theorem begins_of_short (hformat : s.format = .binary) (hmeasured : s.shape.isMeasured = true)
    (hlength : p.length < Bytes.capacity 8) :
    s.Begins v p ↔ ∃ bs, s.write v = .ok bs ∧ bs <+: p := by
  refine and_iff_right_of_imp ?_
  rintro ⟨bs, hwrite, hfront⟩
  rw [write_of_binary hformat] at hwrite
  cases hwrite
  exact s.shape.fits_of_length hmeasured v (Nat.lt_of_le_of_lt hfront.length_le hlength)

end Schema

end Switchboard
