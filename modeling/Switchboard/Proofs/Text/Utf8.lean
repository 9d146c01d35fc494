import Switchboard.Text.Utf8

/-!
# Characters and their bytes

Writing and reading characters undo each other: a character is read back from its bytes, and bytes
that are read as a character are those of that character. So a byte string spells at most one text,
and a text that was read is written as the bytes that were read.
-/

namespace Switchboard.Utf8

/-! ## The ranges of bytes -/

theorem toNat_ofNat_of_lt {n : Nat} (h : n < 256) : (UInt8.ofNat n).toNat = n := by
  rw [UInt8.toNat_ofNat']
  omega

theorem ofNat_eq {n : Nat} {b : UInt8} (h : n = b.toNat) : UInt8.ofNat n = b := by
  rw [h, UInt8.ofNat_toNat]

theorem width_eq (a : UInt8) :
    width a =
      if a.toNat < 0x80 then 1
      else if a.toNat < 0xc2 then 0
      else if a.toNat < 0xe0 then 2
      else if a.toNat < 0xf0 then 3
      else if a.toNat < 0xf5 then 4
      else 0 := by
  simp only [width, UInt8.le_iff_toNat_le, UInt8.lt_iff_toNat_lt, UInt8.reduceToNat,
    Nat.lt_succ_iff]

theorem isTail_iff {b : UInt8} : isTail b = true ↔ 0x80 ≤ b.toNat ∧ b.toNat < 0xc0 := by
  simp only [isTail, Bool.and_eq_true, decide_eq_true_eq, UInt8.le_iff_toNat_le,
    UInt8.reduceToNat, Nat.lt_succ_iff]

/-- The ranges of the second byte, by the lead byte. -/
theorem isSecond_iff {a b : UInt8} :
    isSecond a b = true ↔ (0x80 ≤ b.toNat ∧ b.toNat < 0xc0) ∧ (a.toNat = 0xe0 → 0xa0 ≤ b.toNat) ∧
      (a.toNat = 0xed → b.toNat < 0xa0) ∧ (a.toNat = 0xf0 → 0x90 ≤ b.toNat) ∧
      (a.toNat = 0xf4 → b.toNat < 0x90) := by
  simp only [isSecond, ← UInt8.toNat_inj, UInt8.reduceToNat]
  repeat' split
  all_goals
    simp only [isTail_iff, Bool.and_eq_true, decide_eq_true_eq, UInt8.le_iff_toNat_le,
      UInt8.reduceToNat]
    omega

/-! ## One character -/

/-- The code points that are characters. -/
theorem toNat_cases (c : Char) : c.toNat < 0xd800 ∨ 0xdfff < c.toNat ∧ c.toNat < 0x110000 :=
  c.valid

theorem toNat_ofNat_of_valid {n : Nat} (h : n < 0xd800 ∨ 0xdfff < n ∧ n < 0x110000) :
    (Char.ofNat n).toNat = n := by
  rw [Char.ofNat, dif_pos h]
  rfl

/-- The bytes of one character, and its code point. -/
inductive Spells : Bytes → Nat → Prop
  | one {a : UInt8} (ha : width a = 1) : Spells [a] a.toNat
  | two {a b : UInt8} (ha : width a = 2) (hb : isSecond a b = true) :
      Spells [a, b] (a.toNat % 32 * 64 + payload b)
  | three {a b c : UInt8} (ha : width a = 3) (hb : isSecond a b = true) (hc : isTail c = true) :
      Spells [a, b, c] (a.toNat % 16 * 4096 + payload b * 64 + payload c)
  | four {a b c d : UInt8} (ha : width a = 4) (hb : isSecond a b = true) (hc : isTail c = true)
      (hd : isTail d = true) :
      Spells [a, b, c, d] (a.toNat % 8 * 262144 + payload b * 4096 + payload c * 64 + payload d)

/-! ## Reading one character -/

theorem next_of_spells {unit : Bytes} {n : Nat} (h : Spells unit n) (rest : Bytes) :
    next (unit ++ rest) = .char (Char.ofNat n) rest := by
  cases h with
  | one ha => simp only [List.cons_append, List.nil_append, next, ha]
  | two ha hb => simp only [List.cons_append, List.nil_append, next, ha, hb, if_true]
  | three ha hb hc => simp only [List.cons_append, List.nil_append, next, ha, hb, hc, if_true]
  | four ha hb hc hd =>
    simp only [List.cons_append, List.nil_append, next, ha, hb, hc, hd, if_true]

theorem spells_of_next {bs rest : Bytes} {c : Char} (h : next bs = .char c rest) :
    ∃ unit n, Spells unit n ∧ c = Char.ofNat n ∧ bs = unit ++ rest := by
  unfold next at h
  repeat' split at h
  all_goals cases h
  · exact ⟨_, _, .one ‹_›, rfl, rfl⟩
  · exact ⟨_, _, .two ‹_› ‹_›, rfl, rfl⟩
  · exact ⟨_, _, .three ‹_› ‹isSecond _ _ = true› ‹_›, rfl, rfl⟩
  · exact ⟨_, _, .four ‹_› ‹isSecond _ _ = true› ‹isTail _ = true› ‹_›, rfl, rfl⟩

/-! ## Writing one character -/

section

variable {n : Nat}

theorem spells_one (h : n < 0x80) : Spells [UInt8.ofNat n] n := by
  have ha := toNat_ofNat_of_lt (show n < 256 by omega)
  have hwidth : width (UInt8.ofNat n) = 1 := by
    rw [width_eq, ha, if_pos h]
  have hspells := Spells.one hwidth
  rw [ha] at hspells
  exact hspells

theorem spells_two (hlow : 0x80 ≤ n) (hhigh : n < 0x800) :
    Spells [UInt8.ofNat (0xc0 + n / 64), UInt8.ofNat (0x80 + n % 64)] n := by
  have ha := toNat_ofNat_of_lt (show 0xc0 + n / 64 < 256 by omega)
  have hb := toNat_ofNat_of_lt (show 0x80 + n % 64 < 256 by omega)
  have hwidth : width (UInt8.ofNat (0xc0 + n / 64)) = 2 := by
    rw [width_eq, ha, if_neg (by omega), if_neg (by omega), if_pos (by omega)]
  have hsecond : isSecond (UInt8.ofNat (0xc0 + n / 64)) (UInt8.ofNat (0x80 + n % 64)) = true := by
    rw [isSecond_iff, ha, hb]
    omega
  have hspells := Spells.two hwidth hsecond
  rw [payload, ha, hb] at hspells
  rwa [show (0xc0 + n / 64) % 32 * 64 + (0x80 + n % 64) % 64 = n by omega] at hspells

theorem spells_three (hlow : 0x800 ≤ n) (hhigh : n < 0x10000) (hvalid : n < 0xd800 ∨ 0xdfff < n) :
    Spells [UInt8.ofNat (0xe0 + n / 4096), UInt8.ofNat (0x80 + n / 64 % 64),
      UInt8.ofNat (0x80 + n % 64)] n := by
  have ha := toNat_ofNat_of_lt (show 0xe0 + n / 4096 < 256 by omega)
  have hb := toNat_ofNat_of_lt (show 0x80 + n / 64 % 64 < 256 by omega)
  have hc := toNat_ofNat_of_lt (show 0x80 + n % 64 < 256 by omega)
  have hwidth : width (UInt8.ofNat (0xe0 + n / 4096)) = 3 := by
    rw [width_eq, ha, if_neg (by omega), if_neg (by omega), if_neg (by omega), if_pos (by omega)]
  have hsecond : isSecond (UInt8.ofNat (0xe0 + n / 4096))
      (UInt8.ofNat (0x80 + n / 64 % 64)) = true := by
    rw [isSecond_iff, ha, hb]
    omega
  have htail : isTail (UInt8.ofNat (0x80 + n % 64)) = true := by
    rw [isTail_iff, hc]
    omega
  have hspells := Spells.three hwidth hsecond htail
  rw [payload, payload, ha, hb, hc] at hspells
  rwa [show (0xe0 + n / 4096) % 16 * 4096 + (0x80 + n / 64 % 64) % 64 * 64 +
    (0x80 + n % 64) % 64 = n by omega] at hspells

theorem spells_four (hlow : 0x10000 ≤ n) (hhigh : n < 0x110000) :
    Spells [UInt8.ofNat (0xf0 + n / 262144), UInt8.ofNat (0x80 + n / 4096 % 64),
      UInt8.ofNat (0x80 + n / 64 % 64), UInt8.ofNat (0x80 + n % 64)] n := by
  have ha := toNat_ofNat_of_lt (show 0xf0 + n / 262144 < 256 by omega)
  have hb := toNat_ofNat_of_lt (show 0x80 + n / 4096 % 64 < 256 by omega)
  have hc := toNat_ofNat_of_lt (show 0x80 + n / 64 % 64 < 256 by omega)
  have hd := toNat_ofNat_of_lt (show 0x80 + n % 64 < 256 by omega)
  have hwidth : width (UInt8.ofNat (0xf0 + n / 262144)) = 4 := by
    rw [width_eq, ha, if_neg (by omega), if_neg (by omega), if_neg (by omega), if_neg (by omega),
      if_pos (by omega)]
  have hsecond : isSecond (UInt8.ofNat (0xf0 + n / 262144))
      (UInt8.ofNat (0x80 + n / 4096 % 64)) = true := by
    rw [isSecond_iff, ha, hb]
    omega
  have htail₁ : isTail (UInt8.ofNat (0x80 + n / 64 % 64)) = true := by
    rw [isTail_iff, hc]
    omega
  have htail₂ : isTail (UInt8.ofNat (0x80 + n % 64)) = true := by
    rw [isTail_iff, hd]
    omega
  have hspells := Spells.four hwidth hsecond htail₁ htail₂
  rw [payload, payload, payload, ha, hb, hc, hd] at hspells
  rwa [show (0xf0 + n / 262144) % 8 * 262144 + (0x80 + n / 4096 % 64) % 64 * 4096 +
    (0x80 + n / 64 % 64) % 64 * 64 + (0x80 + n % 64) % 64 = n by omega] at hspells

end

theorem spells_encodeChar (c : Char) : Spells (encodeChar c) c.toNat := by
  have hc := toNat_cases c
  unfold encodeChar
  generalize c.toNat = n at hc
  dsimp only
  split
  · exact spells_one (by omega)
  · split
    · exact spells_two (by omega) (by omega)
    · split
      · exact spells_three (by omega) (by omega) (by omega)
      · exact spells_four (by omega) (by omega)

theorem width_eq_one {a : UInt8} (h : width a = 1) : a.toNat < 0x80 := by
  rw [width_eq] at h
  repeat' split at h
  all_goals omega

theorem width_eq_two {a : UInt8} (h : width a = 2) : 0xc2 ≤ a.toNat ∧ a.toNat < 0xe0 := by
  rw [width_eq] at h
  repeat' split at h
  all_goals omega

theorem width_eq_three {a : UInt8} (h : width a = 3) : 0xe0 ≤ a.toNat ∧ a.toNat < 0xf0 := by
  rw [width_eq] at h
  repeat' split at h
  all_goals omega

theorem width_eq_four {a : UInt8} (h : width a = 4) : 0xf0 ≤ a.toNat ∧ a.toNat < 0xf5 := by
  rw [width_eq] at h
  repeat' split at h
  all_goals omega

/-- Only one byte string spells a character. -/
theorem encodeChar_of_spells {unit : Bytes} {n : Nat} (h : Spells unit n) :
    encodeChar (Char.ofNat n) = unit := by
  cases h with
  | @one a ha =>
    have ha := width_eq_one ha
    unfold encodeChar
    rw [toNat_ofNat_of_valid (by omega)]
    dsimp only
    rw [if_pos ha, UInt8.ofNat_toNat]
  | @two a b ha hb =>
    have ha := width_eq_two ha
    obtain ⟨hb, -⟩ := isSecond_iff.mp hb
    unfold encodeChar payload
    rw [toNat_ofNat_of_valid (by omega)]
    dsimp only
    rw [if_neg (by omega), if_pos (by omega)]
    rw [ofNat_eq (b := a) (by omega), ofNat_eq (b := b) (by omega)]
  | @three a b c ha hb hc =>
    have ha := width_eq_three ha
    obtain ⟨hb, he0, hed, -⟩ := isSecond_iff.mp hb
    have hc := isTail_iff.mp hc
    unfold encodeChar payload
    rw [toNat_ofNat_of_valid (by omega)]
    dsimp only
    rw [if_neg (by omega), if_neg (by omega), if_pos (by omega)]
    rw [ofNat_eq (b := a) (by omega), ofNat_eq (b := b) (by omega), ofNat_eq (b := c) (by omega)]
  | @four a b c d ha hb hc hd =>
    have ha := width_eq_four ha
    obtain ⟨hb, -, -, hf0, hf4⟩ := isSecond_iff.mp hb
    have hc := isTail_iff.mp hc
    have hd := isTail_iff.mp hd
    unfold encodeChar payload
    rw [toNat_ofNat_of_valid (by omega)]
    dsimp only
    rw [if_neg (by omega), if_neg (by omega), if_neg (by omega)]
    rw [ofNat_eq (b := a) (by omega), ofNat_eq (b := b) (by omega), ofNat_eq (b := c) (by omega),
      ofNat_eq (b := d) (by omega)]

/-! ## Both ways -/

theorem next_encodeChar (c : Char) (rest : Bytes) : next (encodeChar c ++ rest) = .char c rest := by
  have hnext := next_of_spells (spells_encodeChar c) rest
  rwa [Char.ofNat_toNat] at hnext

/-- Bytes that are read as a character are those of that character. -/
theorem eq_of_next {bs rest : Bytes} {c : Char} (h : next bs = .char c rest) :
    bs = encodeChar c ++ rest := by
  obtain ⟨unit, n, hspells, rfl, rfl⟩ := spells_of_next h
  rw [encodeChar_of_spells hspells]

theorem next_eq_done {bs : Bytes} (h : next bs = .done) : bs = [] := by
  unfold next at h
  repeat' split at h
  all_goals first | rfl | cases h

/-- All bytes of a character beyond ASCII are, too. -/
theorem mem_encodeChar {c : Char} {b : UInt8} (h : b ∈ encodeChar c) :
    b.toNat = c.toNat ∨ 0x80 ≤ b.toNat := by
  have hc := toNat_cases c
  unfold encodeChar at h
  generalize c.toNat = n at hc h
  dsimp only at h
  split at h
  · rw [List.mem_singleton.mp h]
    exact .inl (toNat_ofNat_of_lt (by omega))
  · right
    have high {m : Nat} (hlow : 0x80 ≤ m) (hbyte : m < 256) (hb : b = UInt8.ofNat m) :
        0x80 ≤ b.toNat := by
      rw [hb, toNat_ofNat_of_lt hbyte]
      exact hlow
    split at h
    · simp only [List.mem_cons, List.not_mem_nil, or_false] at h
      rcases h with h | h <;> exact high (by omega) (by omega) h
    · split at h
      · simp only [List.mem_cons, List.not_mem_nil, or_false] at h
        rcases h with h | h | h <;> exact high (by omega) (by omega) h
      · simp only [List.mem_cons, List.not_mem_nil, or_false] at h
        rcases h with h | h | h | h <;> exact high (by omega) (by omega) h

/-! ## Texts -/

theorem decodeFrom_nil (index : Nat) : decodeFrom index [] = .ok [] := by
  rw [decodeFrom]
  split <;> first | rfl | (next h => cases h)

theorem decodeFrom_of_char {bs rest : Bytes} {c : Char} (h : next bs = .char c rest)
    (index : Nat) :
    decodeFrom index bs =
      (decodeFrom (index + (bs.length - rest.length)) rest).map (c :: ·) := by
  rw [decodeFrom]
  split
  · next h' => rw [h] at h'; cases h'
  · next h' => rw [h] at h'; cases h'
  · next h' => rw [h] at h'; cases h'
  · next h' =>
    rw [h] at h'
    cases h'
    rfl

theorem decodeFrom_encode (index : Nat) (cs : List Char) : decodeFrom index (encode cs) = .ok cs := by
  induction cs generalizing index with
  | nil => exact decodeFrom_nil index
  | cons c cs ih =>
    have hsplit : encode (c :: cs) = encodeChar c ++ encode cs := List.flatMap_cons
    rw [hsplit, decodeFrom_of_char (next_encodeChar c (encode cs)), ih]
    rfl

theorem encode_of_decodeFrom {index : Nat} {bs : Bytes} {cs : List Char}
    (h : decodeFrom index bs = .ok cs) : encode cs = bs := by
  fun_induction decodeFrom index bs generalizing cs with
  | case1 index bs hdone =>
    cases h
    exact (next_eq_done hdone).symm
  | case2 index bs n hbad => cases h
  | case3 index bs hcut => cases h
  | case4 index bs c rest hnext _ ih =>
    rcases hrest : decodeFrom (index + (bs.length - rest.length)) rest with e | more
    · rw [hrest] at h
      cases h
    · rw [hrest] at h
      cases h
      show encodeChar c ++ encode more = bs
      rw [ih hrest, eq_of_next hnext]

/-- A text is read back from its bytes. -/
theorem toString?_ofString (s : String) : toString? (ofString s) = .ok s := by
  rw [toString?, decode, ofString, decodeFrom_encode]
  exact congrArg Except.ok (String.ofList_toList)

/-- A text that was read is written as the bytes that were read. -/
theorem ofString_of_toString? {bs : Bytes} {s : String} (h : toString? bs = .ok s) :
    ofString s = bs := by
  unfold toString? decode at h
  rcases hcs : decodeFrom 0 bs with e | cs
  · rw [hcs] at h
    cases h
  · rw [hcs] at h
    cases h
    rw [ofString, String.toList_ofList]
    exact encode_of_decodeFrom hcs

end Switchboard.Utf8
