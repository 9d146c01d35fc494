import Switchboard.Proofs.Payload.RoundTrip

/-!
# Payloads that are not too long

A length within a payload counts bytes or items that stand behind it. If each item takes a byte at
least, then no length is greater than the payload is long, and all of them fit if the payload does.
So what has been put into a frame is read back, with no more to be said about its value.
-/

namespace Switchboard

/-! ## Shapes whose lengths are bounded by their bytes -/

mutual

/-- Whether every value takes a byte at least. -/
def Shape.takesBytes : Shape → Bool
  | .bool | .int _ | .char | .text | .option _ | .list _ | .map _ _ | .choice _ _ => true
  | .unit _ => false
  | .pair a b => a.takesBytes || b.takesBytes
  | .record _ fs => fs.takesBytes

def Fields.takesBytes : Fields → Bool
  | .nil => false
  | .cons _ s rest => s.takesBytes || rest.takesBytes

end

mutual

/-- Whether the items that are counted take bytes, and all alternatives can be numbered. -/
def Shape.isMeasured : Shape → Bool
  | .bool | .int _ | .char | .text | .unit _ => true
  | .option s => s.isMeasured
  | .list s => s.takesBytes && s.isMeasured
  | .map _ s => s.isMeasured
  | .pair a b => a.isMeasured && b.isMeasured
  | .record _ fs => fs.isMeasured
  | .choice _ vs => vs.length ≤ Bytes.capacity 4 && vs.isMeasured

def Fields.isMeasured : Fields → Bool
  | .nil => true
  | .cons _ s rest => s.isMeasured && rest.isMeasured

def Variants.isMeasured : Variants → Bool
  | .nil => true
  | .bare _ rest => rest.isMeasured
  | .single _ s rest => s.isMeasured && rest.isMeasured
  | .fields _ fs rest => fs.isMeasured && rest.isMeasured

end

/-! ## Bytes of items -/

section Items

variable {α : Type} {f : α → Bytes} {as : List α}

theorem length_le_flatMap (h : ∀ a ∈ as, 0 < (f a).length) :
    as.length ≤ (as.flatMap f).length := by
  induction as with
  | nil => exact Nat.le_refl 0
  | cons a rest ih =>
    obtain ⟨ha, hrest⟩ := List.forall_mem_cons.mp h
    have hle := ih hrest
    rw [List.flatMap_cons, List.length_append, List.length_cons]
    omega

theorem length_le_of_mem_flatMap {a : α} (ha : a ∈ as) :
    (f a).length ≤ (as.flatMap f).length := by
  rw [List.flatMap_def]
  exact (List.sublist_flatten_of_mem (List.mem_map_of_mem ha)).length_le

/-- Both parts of what is short enough are so. -/
theorem lengths_lt_of_append {xs ys : Bytes} {n : Nat} (h : (xs ++ ys).length < n) :
    xs.length < n ∧ ys.length < n := by
  rw [List.length_append] at h
  constructor <;> omega

end Items

namespace Binary

theorem length_encodeChar_pos (c : Char) : 0 < (Utf8.encodeChar c).length := by
  unfold Utf8.encodeChar
  dsimp only
  split_ifs <;> exact Nat.succ_pos _

theorem length_textBytes (s : String) :
    (textBytes s).length = 8 + (Utf8.ofString s).length := by
  rw [textBytes, List.length_append, lengthBytes, Bytes.length_ofNat]

theorem length_keyBytes_pos (k : KeyShape) (key : k.Key) : 0 < (keyBytes k key).length := by
  cases k with
  | text =>
    rw [keyBytes, length_textBytes]
    omega
  | pair => exact Nat.succ_pos _

theorem fitsText_of_length {s : String} (h : (textBytes s).length < Bytes.capacity 8) :
    FitsText s :=
  (lengths_lt_of_append h).2

theorem fitsKey_of_length (k : KeyShape) {key : k.Key}
    (h : (keyBytes k key).length < Bytes.capacity 8) : FitsKey k key := by
  cases k with
  | text => exact fitsText_of_length h
  | pair => trivial

end Binary

open Binary

mutual

theorem Shape.length_toBinary_pos : (s : Shape) → s.takesBytes = true → (v : s.Val) →
    0 < (s.toBinary v).length
  | .bool, _, _ => Nat.one_pos
  | .int k, _, n => by
    rw [Shape.toBinary, Bytes.length_ofNat]
    rcases k with ⟨signed, _ | _ | _ | _⟩ <;> exact Nat.succ_pos _
  | .char, _, c => length_encodeChar_pos c
  | .text, _, t => by
    rw [Shape.toBinary, length_textBytes]
    omega
  | .option _, _, none => Nat.one_pos
  | .option _, _, some _ => Nat.succ_pos _
  | .list _, _, _ => Nat.succ_pos _
  | .map _ _, _, _ => Nat.succ_pos _
  | .pair a b, h, v => by
    rw [Shape.toBinary, List.length_append]
    rcases Bool.or_eq_true_iff.mp h with ha | hb
    · exact Nat.add_pos_left (a.length_toBinary_pos ha v.1) _
    · exact Nat.add_pos_right _ (b.length_toBinary_pos hb v.2)
  | .record _ fs, h, v => fs.length_toBinary_pos h v
  | .choice _ vs, _, v => vs.length_toBinary_pos 0 v

theorem Fields.length_toBinary_pos : (fs : Fields) → fs.takesBytes = true → (v : fs.Val) →
    0 < (fs.toBinary v).length
  | .cons _ s rest, h, v => by
    rw [Fields.toBinary, List.length_append]
    rcases Bool.or_eq_true_iff.mp h with hs | hrest
    · exact Nat.add_pos_left (s.length_toBinary_pos hs v.1) _
    · exact Nat.add_pos_right _ (rest.length_toBinary_pos hrest v.2)

theorem Variants.length_toBinary_pos : (vs : Variants) → (i : Nat) → (v : vs.Val) →
    0 < (vs.toBinary i v).length
  | .nil, _, v => nomatch v
  | .bare _ _, _, .inl _ => Nat.succ_pos _
  | .single _ _ _, _, .inl _ => Nat.succ_pos _
  | .fields _ _ _, _, .inl _ => Nat.succ_pos _
  | .bare _ rest, i, .inr v => rest.length_toBinary_pos (i + 1) v
  | .single _ _ rest, i, .inr v => rest.length_toBinary_pos (i + 1) v
  | .fields _ _ rest, i, .inr v => rest.length_toBinary_pos (i + 1) v

end

mutual

/-- In a payload that is short enough all lengths fit. -/
theorem Shape.fits_of_length : (s : Shape) → s.isMeasured = true → (v : s.Val) →
    (s.toBinary v).length < Bytes.capacity 8 → s.Fits v
  | .bool, _, _, _ => trivial
  | .int _, _, _, _ => trivial
  | .char, _, _, _ => trivial
  | .text, _, _, h => fitsText_of_length h
  | .unit _, _, _, _ => trivial
  | .option _, _, none, _ => trivial
  | .option s, hs, some v, h => s.fits_of_length hs v (Nat.lt_of_succ_lt h)
  | .list s, hs, vs, h => by
    obtain ⟨hbytes, hitem⟩ := Bool.and_eq_true_iff.mp hs
    have hitems := (lengths_lt_of_append h).2
    constructor
    · have hcount : vs.length ≤ (vs.flatMap s.toBinary).length :=
        length_le_flatMap fun v _ => s.length_toBinary_pos hbytes v
      exact Nat.lt_of_le_of_lt hcount hitems
    · intro v hv
      exact s.fits_of_length hitem v (Nat.lt_of_le_of_lt (length_le_of_mem_flatMap hv) hitems)
  | .map k s, hs, t, h => by
    have hentries := (lengths_lt_of_append h).2
    have hpos (e : k.Key × s.Val) : 0 < (keyBytes k e.1 ++ s.toBinary e.2).length := by
      rw [List.length_append]
      exact Nat.add_pos_left (length_keyBytes_pos k e.1) _
    constructor
    · exact Nat.lt_of_le_of_lt (length_le_flatMap fun e _ => hpos e) hentries
    · intro e he
      have hentry := Nat.lt_of_le_of_lt (length_le_of_mem_flatMap he) hentries
      obtain ⟨hkey, hvalue⟩ := lengths_lt_of_append hentry
      exact ⟨fitsKey_of_length k hkey, s.fits_of_length hs e.2 hvalue⟩
  | .pair a b, hs, v, h => by
    obtain ⟨ha, hb⟩ := Bool.and_eq_true_iff.mp hs
    obtain ⟨hfirst, hsecond⟩ := lengths_lt_of_append h
    exact ⟨a.fits_of_length ha v.1 hfirst, b.fits_of_length hb v.2 hsecond⟩
  | .record _ fs, hs, v, h => fs.fits_of_length hs v h
  | .choice _ vs, hs, v, h => by
    obtain ⟨hcount, hvs⟩ := Bool.and_eq_true_iff.mp hs
    refine vs.fits_of_length hvs 0 ?_ v h
    rw [Nat.zero_add]
    exact of_decide_eq_true hcount

theorem Fields.fits_of_length : (fs : Fields) → fs.isMeasured = true → (v : fs.Val) →
    (fs.toBinary v).length < Bytes.capacity 8 → fs.Fits v
  | .nil, _, _, _ => trivial
  | .cons _ s rest, hs, v, h => by
    obtain ⟨hitem, hrest⟩ := Bool.and_eq_true_iff.mp hs
    obtain ⟨hfirst, hmore⟩ := lengths_lt_of_append h
    exact ⟨s.fits_of_length hitem v.1 hfirst, rest.fits_of_length hrest v.2 hmore⟩

/-- Alternatives are counted from `i`, and there are numbers for all that are left. -/
theorem Variants.fits_of_length : (vs : Variants) → vs.isMeasured = true → (i : Nat) →
    i + vs.length ≤ Bytes.capacity 4 → (v : vs.Val) →
    (vs.toBinary i v).length < Bytes.capacity 8 → vs.Fits i v
  | .nil, _, _, _, v, _ => nomatch v
  | .bare _ _, _, _, hi, .inl _, _ => by
    rw [Variants.length] at hi
    exact Nat.lt_of_lt_of_le (Nat.lt_add_of_pos_right (Nat.succ_pos _)) hi
  | .single _ s _, hs, _, hi, .inl v, h => by
    rw [Variants.length] at hi
    obtain ⟨hitem, -⟩ := Bool.and_eq_true_iff.mp hs
    exact ⟨by omega, s.fits_of_length hitem v (lengths_lt_of_append h).2⟩
  | .fields _ fs _, hs, _, hi, .inl v, h => by
    rw [Variants.length] at hi
    obtain ⟨hfields, -⟩ := Bool.and_eq_true_iff.mp hs
    exact ⟨by omega, fs.fits_of_length hfields v (lengths_lt_of_append h).2⟩
  | .bare _ rest, hs, i, hi, .inr v, h => by
    rw [Variants.length] at hi
    exact rest.fits_of_length hs (i + 1) (by omega) v h
  | .single _ _ rest, hs, i, hi, .inr v, h => by
    rw [Variants.length] at hi
    exact rest.fits_of_length (Bool.and_eq_true_iff.mp hs).2 (i + 1) (by omega) v h
  | .fields _ _ rest, hs, i, hi, .inr v, h => by
    rw [Variants.length] at hi
    exact rest.fits_of_length (Bool.and_eq_true_iff.mp hs).2 (i + 1) (by omega) v h

end

/-! ## Whole payloads -/

/-- Whether what a frame can hold of a type is read back as it was. -/
def Schema.isFaithful (s : Schema) : Bool :=
  match s.format with
  | .binary => s.shape.isMeasured
  | .json => s.shape.isLegible

/-- All types in use are such. -/
theorem Samples.isFaithful_of_mem {s : Schema} (h : s ∈ Samples.all) : s.isFaithful = true := by
  revert s
  decide

end Switchboard
