import Switchboard.Network.Stream

/-!
# The frames of a stream

The one-shot reading of a stream takes complete frames off its front, one after the other, and
leaves a tail. It undoes the writing of frames, it loses nothing, and what it leaves holds no
complete frame.
-/

namespace Switchboard

/-- The bytes behind the last complete frame. -/
def StreamTail.bytes : StreamTail → Bytes
  | .more rest => rest
  | .tooLarge _ rest => rest

namespace Framing

variable {f : Framing}

/-- Frames with their lengths, one behind the other. -/
def framesBytes (f : Framing) (frames : List Bytes) : Bytes :=
  frames.flatMap f.frameBytes

theorem framesBytes_append (f : Framing) (xs ys : List Bytes) :
    f.framesBytes (xs ++ ys) = f.framesBytes xs ++ f.framesBytes ys := by
  simp [framesBytes]

theorem framesBytes_cons (f : Framing) (frame : Bytes) (rest : List Bytes) :
    f.framesBytes (frame :: rest) = f.frameBytes frame ++ f.framesBytes rest :=
  List.flatMap_cons

theorem framesBytes_singleton (f : Framing) (frame : Bytes) :
    f.framesBytes [frame] = f.frameBytes frame := by
  simp [framesBytes]

/-! ## The length at the front -/

theorem lengthAt?_encode32 (f : Framing) (n : UInt32) (bs : Bytes) :
    f.lengthAt? (f.byteOrder.encode32 n ++ bs) = some (n.toNat, bs) := by
  have hlen := ByteOrder.length_encode32 f.byteOrder n
  rcases habcd : f.byteOrder.encode32 n with _ | ⟨a, _ | ⟨b, _ | ⟨c, _ | ⟨d, _ | ⟨e, tail⟩⟩⟩⟩⟩ <;>
    simp [habcd] at hlen
  have hn : f.byteOrder.decode32 a b c d = n := by
    apply ByteOrder.encode32_inj (o := f.byteOrder)
    rw [ByteOrder.encode32_decode32, habcd]
  rw [← hn]
  rfl

/-- A length that is read was written on four bytes. -/
theorem lengthAt?_eq_some {bs rest : Bytes} {n : Nat} (h : f.lengthAt? bs = some (n, rest)) :
    ∃ m : UInt32, m.toNat = n ∧ bs = f.byteOrder.encode32 m ++ rest := by
  unfold lengthAt? at h
  split at h
  · next a b c d tail =>
    cases h
    refine ⟨f.byteOrder.decode32 a b c d, rfl, ?_⟩
    rw [ByteOrder.encode32_decode32]
    rfl
  · cases h

theorem lengthAt?_eq_none_iff {bs : Bytes} : f.lengthAt? bs = none ↔ bs.length < 4 := by
  rcases bs with _ | ⟨a, _ | ⟨b, _ | ⟨c, _ | ⟨d, rest⟩⟩⟩⟩ <;> simp [lengthAt?]

/-! ## One frame -/

theorem parse_of_short {bs : Bytes} (h : f.lengthAt? bs = none) : f.parse bs = ⟨[], .more bs⟩ := by
  rw [parse]
  split
  · rfl
  · next heq => rw [h] at heq; cases heq

theorem parse_of_length {bs rest : Bytes} {n : Nat} (h : f.lengthAt? bs = some (n, rest)) :
    f.parse bs =
      if f.limit < n then ⟨[], .tooLarge n bs⟩
      else if n ≤ rest.length then
        ⟨rest.take n :: (f.parse (rest.drop n)).frames, (f.parse (rest.drop n)).tail⟩
      else ⟨[], .more bs⟩ := by
  rw [parse]
  split
  · next heq => rw [h] at heq; cases heq
  · next n' rest' heq =>
    rw [h] at heq
    cases heq
    rfl

theorem parse_tooLarge {n : UInt32} {bs : Bytes} (h : f.limit < n.toNat) :
    f.parse (f.byteOrder.encode32 n ++ bs) =
      ⟨[], .tooLarge n.toNat (f.byteOrder.encode32 n ++ bs)⟩ := by
  rw [parse_of_length (lengthAt?_encode32 f n bs), if_pos h]

theorem parse_incomplete {n : UInt32} {bs : Bytes} (hlimit : n.toNat ≤ f.limit)
    (hshort : bs.length < n.toNat) :
    f.parse (f.byteOrder.encode32 n ++ bs) = ⟨[], .more (f.byteOrder.encode32 n ++ bs)⟩ := by
  rw [parse_of_length (lengthAt?_encode32 f n bs), if_neg (Nat.not_lt.mpr hlimit),
    if_neg (Nat.not_le.mpr hshort)]

/-- A length that four bytes have room for is read as it was written. -/
theorem toNat_ofNat_of_le {n : Nat} (h : n ≤ largestLength) : (UInt32.ofNat n).toNat = n := by
  have hsize : largestLength < UInt32.size := by decide
  exact UInt32.toNat_ofNat_of_lt' (Nat.lt_of_le_of_lt h hsize)

theorem new_limit_le (order : ByteOrder) (max : Nat) : (new order max).limit ≤ largestLength :=
  Nat.min_le_right max largestLength

/-- Reading takes a written frame off the front. -/
theorem parse_frameBytes_append (hf : f.limit ≤ largestLength) {frame : Bytes}
    (hframe : frame.length ≤ f.limit) (bs : Bytes) :
    f.parse (f.frameBytes frame ++ bs) = ⟨frame :: (f.parse bs).frames, (f.parse bs).tail⟩ := by
  have hlen := toNat_ofNat_of_le (Nat.le_trans hframe hf)
  have hat := lengthAt?_encode32 f (UInt32.ofNat frame.length) (frame ++ bs)
  rw [hlen] at hat
  rw [frameBytes, List.append_assoc, parse_of_length hat, if_neg (Nat.not_lt.mpr hframe),
    if_pos (by simp)]
  simp

/-! ## Whole streams -/

theorem parse_framesBytes_append (hf : f.limit ≤ largestLength) {frames : List Bytes}
    (hframes : ∀ frame ∈ frames, frame.length ≤ f.limit) (bs : Bytes) :
    f.parse (f.framesBytes frames ++ bs) =
      ⟨frames ++ (f.parse bs).frames, (f.parse bs).tail⟩ := by
  induction frames with
  | nil => rfl
  | cons frame rest ih =>
    have hrest := ih fun x hx => hframes x (List.mem_cons_of_mem _ hx)
    have hsplit : f.framesBytes (frame :: rest) ++ bs
        = f.frameBytes frame ++ (f.framesBytes rest ++ bs) := by
      simp [framesBytes]
    rw [hsplit, parse_frameBytes_append hf (hframes frame List.mem_cons_self), hrest]
    rfl

/-- Reading loses nothing. -/
theorem framesBytes_parse (f : Framing) (bs : Bytes) :
    f.framesBytes (f.parse bs).frames ++ (f.parse bs).tail.bytes = bs := by
  fun_induction f.parse bs with
  | case1 bs hnone => rfl
  | case2 bs n rest hat hlarge => rfl
  | case3 bs n rest hat hlimit hfits more ih =>
    obtain ⟨m, rfl, rfl⟩ := lengthAt?_eq_some hat
    -- The length in front of the frame is the one that was read, since the frame is complete.
    have hm : UInt32.ofNat (rest.take m.toNat).length = m := by
      rw [List.length_take, Nat.min_eq_left hfits, UInt32.ofNat_toNat]
    have hframe : f.frameBytes (rest.take m.toNat)
        = f.byteOrder.encode32 m ++ rest.take m.toNat := by
      rw [frameBytes, hm]
    show f.framesBytes (rest.take m.toNat :: more.frames) ++ more.tail.bytes = _
    rw [framesBytes, List.flatMap_cons, hframe, List.append_assoc, List.append_assoc]
    -- What `ih` accounts for now stands behind the frame, as it was cut off.
    show f.byteOrder.encode32 m ++ (rest.take m.toNat ++ (f.framesBytes more.frames ++ _)) = _
    rw [ih, List.take_append_drop]
  | case4 bs n rest hat hlimit hshort => rfl

theorem length_le_of_mem_parse {bs frame : Bytes} (h : frame ∈ (f.parse bs).frames) :
    frame.length ≤ f.limit := by
  fun_induction f.parse bs with
  | case1 bs hnone => cases h
  | case2 bs n rest hat hlarge => cases h
  | case3 bs n rest hat hlimit hfits more ih =>
    rcases List.mem_cons.mp h with rfl | hmore
    · rw [List.length_take]
      omega
    · exact ih hmore
  | case4 bs n rest hat hlimit hshort => cases h

/-- What is left behind the frames holds no complete frame, and is read as it is. -/
theorem parse_tail (f : Framing) (bs : Bytes) :
    f.parse (f.parse bs).tail.bytes = ⟨[], (f.parse bs).tail⟩ := by
  fun_induction f.parse bs with
  | case1 bs hnone => exact parse_of_short hnone
  | case2 bs n rest hat hlarge => exact (parse_of_length hat).trans (if_pos hlarge)
  | case3 bs n rest hat hlimit hfits more ih => exact ih
  | case4 bs n rest hat hlimit hshort =>
    exact (parse_of_length hat).trans ((if_neg hlimit).trans (if_neg hshort))

/-! ## Where a stream ends -/

/-- Complete frames with something else behind them. -/
def EndsWith (f : Framing) (bs rest : Bytes) : Prop :=
  ∃ frames, (∀ frame ∈ frames, frame.length ≤ f.limit) ∧ bs = f.framesBytes frames ++ rest

theorem endsWith_tail (f : Framing) (bs : Bytes) : f.EndsWith bs (f.parse bs).tail.bytes :=
  ⟨(f.parse bs).frames, fun _ h => length_le_of_mem_parse h, (framesBytes_parse f bs).symm⟩

theorem EndsWith.tail_eq (hf : f.limit ≤ largestLength) {bs rest : Bytes}
    (h : f.EndsWith bs rest) : (f.parse bs).tail = (f.parse rest).tail := by
  obtain ⟨frames, hfits, rfl⟩ := h
  rw [parse_framesBytes_append hf hfits]

/-- A rest that holds no complete frame is found by reading. -/
theorem endsWith_iff (hf : f.limit ≤ largestLength) {tail : StreamTail}
    (h : f.parse tail.bytes = ⟨[], tail⟩) (bs : Bytes) :
    f.EndsWith bs tail.bytes ↔ (f.parse bs).tail = tail := by
  constructor
  · intro hends
    rw [hends.tail_eq hf, h]
  · intro htail
    have hends := endsWith_tail f bs
    rw [htail] at hends
    exact hends

/-- What holds no complete frame is part of a length, or a length and part of its frame. -/
theorem cases_of_parse_more {bs : Bytes} (h : f.parse bs = ⟨[], .more bs⟩) :
    bs.length < 4 ∨ ∃ (n : UInt32) (body : Bytes),
      bs = f.byteOrder.encode32 n ++ body ∧ n.toNat ≤ f.limit ∧ body.length < n.toNat := by
  cases hat : f.lengthAt? bs with
  | none => exact Or.inl (lengthAt?_eq_none_iff.mp hat)
  | some p =>
    obtain ⟨m, rest⟩ := p
    obtain ⟨n, rfl, rfl⟩ := lengthAt?_eq_some hat
    rw [parse_of_length hat] at h
    split at h
    · cases h
    · next hlimit =>
      split at h
      · cases h
      · next hshort =>
        exact Or.inr ⟨n, rest, rfl, Nat.le_of_not_lt hlimit, Nat.lt_of_not_le hshort⟩

theorem large_of_parse_tooLarge {bs : Bytes} {n : Nat} (h : f.parse bs = ⟨[], .tooLarge n bs⟩) :
    ∃ (m : UInt32) (rest : Bytes),
      bs = f.byteOrder.encode32 m ++ rest ∧ m.toNat = n ∧ f.limit < m.toNat := by
  cases hat : f.lengthAt? bs with
  | none =>
    rw [parse_of_short hat] at h
    cases h
  | some p =>
    obtain ⟨k, rest⟩ := p
    obtain ⟨m, rfl, rfl⟩ := lengthAt?_eq_some hat
    rw [parse_of_length hat] at h
    split at h
    · next hlarge =>
      cases h
      exact ⟨m, rest, rfl, rfl, hlarge⟩
    · split at h <;> cases h

/-- A length above the limit stays one, whatever comes in behind it. -/
theorem parse_tooLarge_append {n : Nat} {bs : Bytes} (h : f.parse bs = ⟨[], .tooLarge n bs⟩)
    (more : Bytes) : f.parse (bs ++ more) = ⟨[], .tooLarge n (bs ++ more)⟩ := by
  obtain ⟨m, rest, rfl, rfl, hlarge⟩ := large_of_parse_tooLarge h
  rw [List.append_assoc]
  exact parse_tooLarge hlarge

end Framing

end Switchboard
