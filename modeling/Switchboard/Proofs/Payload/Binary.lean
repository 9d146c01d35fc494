import Mathlib.Algebra.Group.Nat.Defs
import Switchboard.Proofs.Payload.Basic
import Switchboard.Proofs.Schema.Table
import Switchboard.Proofs.Text.Utf8

/-!
# Binary payloads

Reading takes a value back from the front of its bytes, whatever follows them. What is read from
any bytes has lengths that can be written again.
-/

namespace Switchboard

namespace Binary

/-! ## Numbers -/

theorem readNat_eq (w : Nat) (bs : Bytes) :
    readNat w bs =
      if w ≤ bs.length then .ok (Bytes.toNat (bs.take w), bs.drop w) else .error .endOfInput := by
  unfold readNat Bytes.split?
  by_cases h : w ≤ bs.length
  · rw [if_pos h, if_pos h]
  · rw [if_neg h, if_neg h]

theorem readNat_append {w n : Nat} (h : n < Bytes.capacity w) (rest : Bytes) :
    readNat w (Bytes.ofNat w n ++ rest) = .ok (n, rest) := by
  have hsplit := Bytes.split?_append (Bytes.ofNat w n) rest
  rw [Bytes.length_ofNat] at hsplit
  rw [readNat, hsplit]
  dsimp only
  rw [Bytes.toNat_ofNat, Nat.mod_eq_of_lt h]

/-- A number that is read was written. -/
theorem readNat_eq_ok {w n : Nat} {bs rest : Bytes} (h : readNat w bs = .ok (n, rest)) :
    n < Bytes.capacity w ∧ bs = Bytes.ofNat w n ++ rest := by
  unfold readNat at h
  split at h
  · next number rest' hsplit =>
    cases h
    obtain ⟨rfl, rfl⟩ := Bytes.split?_eq_some hsplit
    exact ⟨Bytes.toNat_lt number, by rw [Bytes.ofNat_toNat]⟩
  · cases h

/-! ## Readers -/

variable {α β : Type}

/-- Whether a reader takes a value from its bytes and leaves what follows. -/
def Reads (r : Reader α) (bs : Bytes) (a : α) : Prop :=
  ∀ rest, r (bs ++ rest) = .ok (a, rest)

theorem reads_readBoth {first : Reader α} {second : Reader β} {xs ys : Bytes} {a : α} {b : β}
    (ha : Reads first xs a) (hb : Reads second ys b) :
    Reads (readBoth first second) (xs ++ ys) (a, b) := by
  intro rest
  rw [List.append_assoc]
  refine bind_eq_ok_iff.mpr ⟨_, ha (ys ++ rest), ?_⟩
  exact bind_eq_ok_iff.mpr ⟨_, hb rest, rfl⟩

theorem reads_readMany {item : Reader α} {write : α → Bytes} {as : List α}
    (h : ∀ a ∈ as, Reads item (write a) a) :
    Reads (readMany item as.length) (as.flatMap write) as := by
  induction as with
  | nil =>
    intro rest
    rfl
  | cons a as ih =>
    intro rest
    rw [List.flatMap_cons, List.append_assoc]
    refine bind_eq_ok_iff.mpr ⟨_, h a List.mem_cons_self _, ?_⟩
    have htail := ih fun b hb => h b (List.mem_cons_of_mem _ hb)
    exact bind_eq_ok_iff.mpr ⟨_, htail rest, rfl⟩

/-- Items behind their number. -/
def readCounted (item : Reader α) : Reader (List α) := fun bs => do
  let (n, rest) ← readNat 8 bs
  readMany item n rest

theorem reads_readCounted {item : Reader α} {write : α → Bytes} {as : List α}
    (hlength : FitsLength as.length) (h : ∀ a ∈ as, Reads item (write a) a) :
    Reads (readCounted item) (lengthBytes as.length ++ as.flatMap write) as := by
  intro rest
  rw [List.append_assoc]
  exact bind_eq_ok_iff.mpr ⟨_, readNat_append hlength _, reads_readMany h rest⟩

theorem reads_readBool (b : Bool) : Reads readBool [if b then 1 else 0] b := by
  intro rest
  cases b <;> rfl

theorem reads_readChar (c : Char) : Reads readChar (Utf8.encodeChar c) c := by
  intro rest
  rw [readChar, Utf8.next_encodeChar]

theorem reads_readText {s : String} (h : FitsText s) : Reads readText (textBytes s) s := by
  intro rest
  rw [textBytes, List.append_assoc]
  refine bind_eq_ok_iff.mpr ⟨_, readNat_append h _, ?_⟩
  dsimp only
  rw [Bytes.split?_append]
  dsimp only
  rw [Utf8.toString?_ofString]

theorem capacity_width (w : Width) : Bytes.capacity w.bytes = 2 ^ w.bits := by
  cases w <;> rfl

theorem reads_int (k : IntKind) (n : k.Value) :
    Reads (fun bs => do
      let (n, rest) ← readNat k.width.bytes bs
      .ok (BitVec.ofNat k.width.bits n, rest)) (Bytes.ofNat k.width.bytes n.toNat) n := by
  intro rest
  have hn : n.toNat < Bytes.capacity k.width.bytes := by
    rw [capacity_width]
    exact n.isLt
  refine bind_eq_ok_iff.mpr ⟨_, readNat_append hn rest, ?_⟩
  dsimp only
  rw [BitVec.ofNat_toNat, BitVec.setWidth_eq]

theorem readBinary_int (k : IntKind) (bs : Bytes) :
    (Shape.int k).readBinary bs =
      if k.width.bytes ≤ bs.length then
        .ok (BitVec.ofNat k.width.bits (Bytes.toNat (bs.take k.width.bytes)),
          bs.drop k.width.bytes)
      else .error .endOfInput := by
  rw [Shape.readBinary]
  dsimp only
  rw [readNat_eq]
  by_cases h : k.width.bytes ≤ bs.length
  · rw [if_pos h, if_pos h]
    rfl
  · rw [if_neg h, if_neg h]
    rfl

/-- A number is written as it was read. -/
theorem toBinary_int {k : IntKind} {bs : Bytes} (h : k.width.bytes ≤ bs.length) :
    (Shape.int k).toBinary (BitVec.ofNat k.width.bits (Bytes.toNat (bs.take k.width.bytes))) =
      bs.take k.width.bytes := by
  have hlength : (bs.take k.width.bytes).length = k.width.bytes := List.length_take_of_le h
  have hlt := Bytes.toNat_lt (bs.take k.width.bytes)
  have hbytes := Bytes.ofNat_toNat (bs.take k.width.bytes)
  rw [hlength] at hlt hbytes
  rw [Shape.toBinary, BitVec.toNat_ofNat, ← capacity_width, Nat.mod_eq_of_lt hlt, hbytes]

theorem reads_readByte (b : BitVec 8) : Reads readByte (Bytes.ofNat 1 b.toNat) b := by
  intro rest
  refine bind_eq_ok_iff.mpr ⟨_, readNat_append b.isLt rest, ?_⟩
  dsimp only
  rw [BitVec.ofNat_toNat, BitVec.setWidth_eq]

theorem reads_readKey : (k : KeyShape) → (key : k.Key) → FitsKey k key →
    Reads (readKey k) (keyBytes k key) key
  | .text, _, h => reads_readText h
  | .pair, p, _ => reads_readBoth (reads_readByte p.1) (reads_readByte p.2)

/-- The number of an alternative, counted from `i`, in front of its contents. -/
def Numbered (bs : Bytes) (i : Nat) (r : Nat → Fault → Reader α) (a : α) : Prop :=
  ∃ k body, bs = Bytes.ofNat 4 (i + k) ++ body ∧ i + k < Bytes.capacity 4 ∧
    ∀ fault, Reads (r k fault) body a

theorem Numbered.here {r : Nat → Fault → Reader α} {a : α} {i : Nat} {body : Bytes}
    (hi : i < Bytes.capacity 4) (h : ∀ fault, Reads (r 0 fault) body a) :
    Numbered (Bytes.ofNat 4 i ++ body) i r a :=
  ⟨0, body, rfl, hi, h⟩

/-- One alternative comes before. -/
theorem Numbered.next {r : Nat → Fault → Reader α} {r' : Nat → Fault → Reader β} {f : α → β}
    {a : α} {bs : Bytes} {i : Nat} (h : Numbered bs (i + 1) r a)
    (hr : ∀ k fault bs, r' (k + 1) fault bs = (do
      let (a, rest) ← r k fault bs
      .ok (f a, rest))) : Numbered bs i r' (f a) := by
  obtain ⟨k, body, hbytes, hk, hread⟩ := h
  rw [Nat.add_right_comm, Nat.add_assoc] at hbytes hk
  refine ⟨k + 1, body, hbytes, hk, ?_⟩
  intro fault rest
  rw [hr]
  exact bind_eq_ok_iff.mpr ⟨_, hread fault rest, rfl⟩

end Binary

open Binary

/-! ## Values -/

mutual

/-- A value is read back from its bytes. -/
theorem Shape.reads_toBinary : (s : Shape) → (v : s.Val) → s.Fits v →
    Reads s.readBinary (s.toBinary v) v
  | .bool, b, _ => reads_readBool b
  | .int k, n, _ => reads_int k n
  | .char, c, _ => reads_readChar c
  | .text, _, h => reads_readText h
  | .unit _, _, _ => fun _ => rfl
  | .option s, none, _ => fun _ => rfl
  | .option s, some v, h => by
    intro rest
    have hv := s.reads_toBinary v h rest
    refine bind_eq_ok_iff.mpr ⟨(1, s.toBinary v ++ rest), rfl, ?_⟩
    exact bind_eq_ok_iff.mpr ⟨_, hv, rfl⟩
  | .list s, vs, h => reads_readCounted h.1 fun v hv => s.reads_toBinary v (h.2 v hv)
  | .map k s, t, h => by
    intro rest
    have hentries := reads_readCounted h.1 fun e he =>
      reads_readBoth (reads_readKey k e.1 (h.2 e he).1) (s.reads_toBinary e.2 (h.2 e he).2)
    -- A table is made of the entries as they are read, and they were written in its order.
    obtain ⟨⟨n, rest'⟩, hn, hmany⟩ := bind_eq_ok_iff.mp (hentries rest)
    refine bind_eq_ok_iff.mpr ⟨_, hn, bind_eq_ok_iff.mpr ⟨_, hmany, ?_⟩⟩
    exact congrArg (fun t => Except.ok (t, rest)) (Table.tableOf_entries t)
  | .pair a b, v, h => reads_readBoth (a.reads_toBinary v.1 h.1) (b.reads_toBinary v.2 h.2)
  | .record _ fs, v, h => fs.reads_toBinary v h
  | .choice _ vs, v, h => by
    intro rest
    obtain ⟨k, body, hbytes, hk, hread⟩ := vs.reads_toBinary 0 v h
    rw [Nat.zero_add] at hbytes hk
    rw [Shape.toBinary, hbytes, List.append_assoc]
    refine bind_eq_ok_iff.mpr ⟨_, readNat_append hk _, ?_⟩
    exact hread _ rest

theorem Fields.reads_toBinary : (fs : Fields) → (v : fs.Val) → fs.Fits v →
    Reads fs.readBinary (fs.toBinary v) v
  | .nil, _, _ => fun _ => rfl
  | .cons _ s rest, v, h => reads_readBoth (s.reads_toBinary v.1 h.1) (rest.reads_toBinary v.2 h.2)

/-- The number of an alternative leads to its contents. -/
theorem Variants.reads_toBinary : (vs : Variants) → (i : Nat) → (v : vs.Val) → vs.Fits i v →
    Numbered (vs.toBinary i v) i vs.readBinary v
  | .nil, _, v, _ => nomatch v
  | .bare _ _, _, .inl _, h => ⟨0, [], (List.append_nil _).symm, h, fun _ _ => rfl⟩
  | .single _ s _, _, .inl v, h =>
    .here h.1 fun _ bs => bind_eq_ok_iff.mpr ⟨_, s.reads_toBinary v h.2 bs, rfl⟩
  | .fields _ fs _, _, .inl v, h =>
    .here h.1 fun _ bs => bind_eq_ok_iff.mpr ⟨_, fs.reads_toBinary v h.2 bs, rfl⟩
  | .bare _ rest, i, .inr v, h => (rest.reads_toBinary (i + 1) v h).next fun _ _ _ => rfl
  | .single _ _ rest, i, .inr v, h => (rest.reads_toBinary (i + 1) v h).next fun _ _ _ => rfl
  | .fields _ _ rest, i, .inr v, h => (rest.reads_toBinary (i + 1) v h).next fun _ _ _ => rfl

end

/-! ## What is read -/

namespace Binary

variable {α β : Type}

theorem of_readBoth {first : Reader α} {second : Reader β} {bs rest : Bytes} {p : α × β}
    (h : readBoth first second bs = .ok (p, rest)) :
    ∃ mid, first bs = .ok (p.1, mid) ∧ second mid = .ok (p.2, rest) := by
  obtain ⟨⟨a, mid⟩, ha, h⟩ := bind_eq_ok_iff.mp h
  obtain ⟨⟨b, rest'⟩, hb, h⟩ := bind_eq_ok_iff.mp h
  cases h
  exact ⟨mid, ha, hb⟩

/-- Whatever holds of every item that can be read holds of all that were. -/
theorem of_readMany {item : Reader α} {Q : α → Prop}
    (hitem : ∀ bs a rest, item bs = .ok (a, rest) → Q a) {n : Nat} {bs rest : Bytes}
    {as : List α} (h : readMany item n bs = .ok (as, rest)) : as.length = n ∧ ∀ a ∈ as, Q a := by
  induction n generalizing bs as with
  | zero =>
    cases h
    exact ⟨rfl, nofun⟩
  | succ n ih =>
    obtain ⟨⟨a, mid⟩, ha, h⟩ := bind_eq_ok_iff.mp h
    obtain ⟨⟨more, rest'⟩, hmore, h⟩ := bind_eq_ok_iff.mp h
    cases h
    obtain ⟨hlength, hall⟩ := ih hmore
    exact ⟨congrArg Nat.succ hlength, List.forall_mem_cons.mpr ⟨hitem _ _ _ ha, hall⟩⟩

theorem of_readCounted {item : Reader α} {Q : α → Prop}
    (hitem : ∀ bs a rest, item bs = .ok (a, rest) → Q a) {bs rest : Bytes} {as : List α}
    (h : readCounted item bs = .ok (as, rest)) : FitsLength as.length ∧ ∀ a ∈ as, Q a := by
  obtain ⟨⟨n, mid⟩, hn, hmany⟩ := bind_eq_ok_iff.mp h
  obtain ⟨hlength, hall⟩ := of_readMany hitem hmany
  rw [hlength]
  exact ⟨(readNat_eq_ok hn).1, hall⟩

theorem fitsText_of_readText {bs rest : Bytes} {s : String} (h : readText bs = .ok (s, rest)) :
    FitsText s := by
  obtain ⟨⟨n, mid⟩, hn, h⟩ := bind_eq_ok_iff.mp h
  dsimp only at h
  split at h
  · cases h
  · next text rest' hsplit =>
    split at h
    · next s' htext =>
      cases h
      rw [FitsText, Utf8.ofString_of_toString? htext, (Bytes.split?_eq_some hsplit).2]
      exact (readNat_eq_ok hn).1
    · cases h

theorem fitsKey_of_readKey : (k : KeyShape) → {bs rest : Bytes} → {key : k.Key} →
    readKey k bs = .ok (key, rest) → FitsKey k key
  | .text, _, _, _, h => fitsText_of_readText h
  | .pair, _, _, _, _ => trivial

theorem of_readOption {item : Reader α} {bs rest : Bytes} {v : Option α}
    (h : readOption item bs = .ok (v, rest)) :
    v = none ∨ ∃ a mid, v = some a ∧ item mid = .ok (a, rest) := by
  obtain ⟨⟨n, mid⟩, -, h⟩ := bind_eq_ok_iff.mp h
  match n, h with
  | 0, h =>
    cases h
    exact .inl rfl
  | 1, h =>
    obtain ⟨⟨a, rest'⟩, ha, h⟩ := bind_eq_ok_iff.mp h
    cases h
    exact .inr ⟨a, mid, rfl, ha⟩
  | n + 2, h => cases h

end Binary

mutual

/-- What is read has lengths that fit. -/
theorem Shape.fits_of_readBinary : (s : Shape) → {bs rest : Bytes} → {v : s.Val} →
    s.readBinary bs = .ok (v, rest) → s.Fits v
  | .bool, _, _, _, _ => trivial
  | .int _, _, _, _, _ => trivial
  | .char, _, _, _, _ => trivial
  | .text, _, _, _, h => fitsText_of_readText h
  | .unit _, _, _, _, _ => trivial
  | .option s, _, _, _, h => by
    rcases of_readOption h with rfl | ⟨v, mid, rfl, hv⟩
    · trivial
    · exact s.fits_of_readBinary hv
  | .list s, _, _, _, h => of_readCounted (fun _ _ _ hv => s.fits_of_readBinary hv) h
  | .map k s, _, _, _, h => by
    obtain ⟨⟨n, mid⟩, hn, h⟩ := bind_eq_ok_iff.mp h
    obtain ⟨⟨es, rest'⟩, hmany, h⟩ := bind_eq_ok_iff.mp h
    cases h
    have hentry (bs rest : Bytes) (e : k.Key × s.Val)
        (he : readBoth (readKey k) s.readBinary bs = .ok (e, rest)) :
        FitsKey k e.1 ∧ s.Fits e.2 := by
      obtain ⟨mid, hkey, hvalue⟩ := of_readBoth he
      exact ⟨fitsKey_of_readKey k hkey, s.fits_of_readBinary hvalue⟩
    have hentries := of_readCounted (fun bs e rest => hentry bs rest e)
      (bind_eq_ok_iff.mpr ⟨_, hn, hmany⟩)
    exact ⟨Nat.lt_of_le_of_lt (Table.length_tableOf_le es) hentries.1,
      fun e he => hentries.2 e (Table.mem_tableOf he)⟩
  | .pair a b, _, _, _, h => by
    obtain ⟨mid, ha, hb⟩ := of_readBoth h
    exact ⟨a.fits_of_readBinary ha, b.fits_of_readBinary hb⟩
  | .record _ fs, _, _, _, h => fs.fits_of_readBinary h
  | .choice _ vs, _, _, _, h => by
    obtain ⟨⟨n, mid⟩, hn, h⟩ := bind_eq_ok_iff.mp h
    refine vs.fits_of_readBinary h 0 ?_
    rw [Nat.zero_add]
    exact (readNat_eq_ok hn).1

theorem Fields.fits_of_readBinary : (fs : Fields) → {bs rest : Bytes} → {v : fs.Val} →
    fs.readBinary bs = .ok (v, rest) → fs.Fits v
  | .nil, _, _, _, _ => trivial
  | .cons _ s rest, _, _, _, h => by
    obtain ⟨mid, hv, hmore⟩ := of_readBoth h
    exact ⟨s.fits_of_readBinary hv, rest.fits_of_readBinary hmore⟩

theorem Variants.fits_of_readBinary : (vs : Variants) → {index : Nat} → {fault : Fault} →
    {bs rest : Bytes} → {v : vs.Val} → vs.readBinary index fault bs = .ok (v, rest) →
    (i : Nat) → i + index < Bytes.capacity 4 → vs.Fits i v
  | .nil, _, _, _, _, v, _, _, _ => nomatch v
  | .bare _ rest, 0, _, _, _, _, h, i, hi => by
    cases h
    exact hi
  | .single _ s rest, 0, _, _, _, _, h, i, hi => by
    obtain ⟨⟨v, mid⟩, hv, h⟩ := bind_eq_ok_iff.mp h
    cases h
    exact ⟨hi, s.fits_of_readBinary hv⟩
  | .fields _ fs rest, 0, _, _, _, _, h, i, hi => by
    obtain ⟨⟨v, mid⟩, hv, h⟩ := bind_eq_ok_iff.mp h
    cases h
    exact ⟨hi, fs.fits_of_readBinary hv⟩
  -- One alternative fewer to go, and one more before it.
  | .bare _ rest, index + 1, _, _, _, _, h, i, hi => by
    obtain ⟨⟨v, mid⟩, hv, h⟩ := bind_eq_ok_iff.mp h
    cases h
    exact rest.fits_of_readBinary hv (i + 1) (by omega)
  | .single _ _ rest, index + 1, _, _, _, _, h, i, hi => by
    obtain ⟨⟨v, mid⟩, hv, h⟩ := bind_eq_ok_iff.mp h
    cases h
    exact rest.fits_of_readBinary hv (i + 1) (by omega)
  | .fields _ _ rest, index + 1, _, _, _, _, h, i, hi => by
    obtain ⟨⟨v, mid⟩, hv, h⟩ := bind_eq_ok_iff.mp h
    cases h
    exact rest.fits_of_readBinary hv (i + 1) (by omega)

end

/-! ## Whole payloads -/

namespace Schema

variable {s : Schema} {bs : Bytes} {v : s.Value}

theorem read_of_binary (h : s.format = .binary) :
    s.read bs = .ok v ↔ ∃ rest, s.shape.readBinary bs = .ok (v, rest) := by
  unfold read
  rw [h]
  rcases s.shape.readBinary bs with e | ⟨w, rest⟩
  · simp
  · simp

theorem write_of_binary (h : s.format = .binary) (v : s.Value) :
    s.write v = .ok (s.shape.toBinary v) := by
  unfold write
  rw [h]

/-- A binary payload is read back. -/
theorem read_toBinary (h : s.format = .binary) (hv : s.shape.Fits v) :
    s.read (s.shape.toBinary v) = .ok v := by
  have hread := s.shape.reads_toBinary v hv []
  rw [List.append_nil] at hread
  exact (read_of_binary h).mpr ⟨[], hread⟩

theorem fits_of_read (h : s.format = .binary) (hv : s.read bs = .ok v) : s.shape.Fits v := by
  obtain ⟨rest, hread⟩ := (read_of_binary h).mp hv
  exact s.shape.fits_of_readBinary hread

end Schema

end Switchboard
