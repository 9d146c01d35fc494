import Switchboard.Proofs.Payload.Basic

/-!
# Numbers in JSON are read back

A whole number that fits 64 bits is read back from its digits, if what follows them cannot be a part
of a number.
-/

namespace Switchboard

namespace Decimal

/-! ## Digits -/

theorem isDigit_iff {b : UInt8} : isDigit b = true ↔ 0x30 ≤ b.toNat ∧ b.toNat < 0x3a := by
  simp only [isDigit, Bool.and_eq_true, decide_eq_true_eq, UInt8.le_iff_toNat_le,
    UInt8.reduceToNat, Nat.lt_succ_iff]

theorem toNat_digit {n : Nat} (h : n < 10) : (UInt8.ofNat (0x30 + n)).toNat = 0x30 + n := by
  rw [UInt8.toNat_ofNat']
  omega

theorem digit_ofNat {n : Nat} (h : n < 10) : digit (UInt8.ofNat (0x30 + n)) = n := by
  rw [digit, toNat_digit h]
  exact Nat.add_sub_cancel_left 0x30 n

theorem isDigit_of_mem_ofNat {n : Nat} {d : UInt8} (h : d ∈ ofNat n) : isDigit d = true := by
  fun_induction ofNat n with
  | case1 n hsmall =>
    rw [List.mem_singleton.mp h, isDigit_iff, toNat_digit hsmall]
    omega
  | case2 n hlarge ih =>
    rcases List.mem_append.mp h with hhigh | hlow
    · exact ih hhigh
    · rw [List.mem_singleton.mp hlow, isDigit_iff, toNat_digit (by omega)]
      omega

theorem toNat_ofNat (n : Nat) : toNat (ofNat n) = n := by
  fun_induction ofNat n with
  | case1 n hsmall => rw [toNat, List.foldl_cons, List.foldl_nil, digit_ofNat hsmall, Nat.mul_zero,
      Nat.zero_add]
  | case2 n hlarge ih =>
    rw [toNat, List.foldl_append, ← toNat, ih]
    simp only [List.foldl_cons, List.foldl_nil, digit_ofNat (show n % 10 < 10 by omega)]
    omega

/-- Only zero starts with a zero. -/
theorem ofNat_eq_cons (n : Nat) : ∃ d ds, ofNat n = d :: ds ∧ (d = 0x30 → n = 0) := by
  fun_induction ofNat n with
  | case1 n hsmall =>
    refine ⟨_, [], rfl, ?_⟩
    intro hzero
    have hd := toNat_digit hsmall
    rw [hzero] at hd
    change 0x30 = 0x30 + n at hd
    omega
  | case2 n hlarge ih =>
    obtain ⟨d, ds, hds, hzero⟩ := ih
    rw [hds]
    refine ⟨d, _, rfl, ?_⟩
    intro hd
    have := hzero hd
    omega

end Decimal

namespace Json

open Decimal

/-- Whether some bytes end a value: nothing follows, or a comma or a closing bracket. -/
def Stops (rest : Bytes) : Prop :=
  ∀ b ∈ rest.head?, b = 0x2c ∨ b = 0x5d ∨ b = 0x7d

theorem stops_nil : Stops [] :=
  nofun

theorem stops_comma (rest : Bytes) : Stops (0x2c :: rest) := by
  intro b hb
  cases hb
  exact .inl rfl

theorem stops_bracket (rest : Bytes) : Stops (0x5d :: rest) := by
  intro b hb
  cases hb
  exact .inr (.inl rfl)

theorem stops_brace (rest : Bytes) : Stops (0x7d :: rest) := by
  intro b hb
  cases hb
  exact .inr (.inr rfl)

theorem span_append {ds rest : Bytes} (hds : ∀ d ∈ ds, isDigit d = true) (hrest : Stops rest) :
    Decimal.span (ds ++ rest) = (ds, rest) := by
  have hnone : rest.takeWhile isDigit = [] ∧ rest.dropWhile isDigit = rest := by
    rcases rest with _ | ⟨b, rest⟩
    · exact ⟨rfl, rfl⟩
    · have hb : isDigit b = false := by
        rcases hrest b rfl with rfl | rfl | rfl <;> rfl
      simp [hb]
  rw [Decimal.span, List.takeWhile_append_of_pos hds, List.dropWhile_append_of_pos hds, hnone.1,
    hnone.2, List.append_nil]

theorem le_foldl_digits (n : Nat) (ds : Bytes) :
    n ≤ ds.foldl (fun n d => 10 * n + digit d) n := by
  induction ds generalizing n with
  | nil => exact Nat.le_refl n
  | cons d ds ih => exact Nat.le_trans (by omega) (ih (10 * n + digit d))

/-- Digits whose number fits are all taken. -/
theorem absorb_eq {n : Nat} {ds : Bytes}
    (h : ds.foldl (fun n d => 10 * n + digit d) n ≤ largestSignificand) :
    absorb n ds = (ds.foldl (fun n d => 10 * n + digit d) n, ds.length) := by
  induction ds generalizing n with
  | nil => rfl
  | cons d ds ih =>
    have hfirst := Nat.le_trans (le_foldl_digits (10 * n + digit d) ds) h
    rw [absorb]
    dsimp only
    rw [if_pos hfirst, ih h]
    rfl

theorem readMagnitude_ofNat {n : Nat} (h : n ≤ largestSignificand) {rest : Bytes}
    (hrest : Stops rest) (negative : Bool) :
    readMagnitude negative (Decimal.ofNat n ++ rest) = readAfterDigits negative n 0 rest := by
  obtain ⟨d, ds, hds, hzero⟩ := ofNat_eq_cons n
  have hdigit : isDigit d = true := isDigit_of_mem_ofNat (hds ▸ List.mem_cons_self)
  by_cases hd : d = 0x30
  · obtain rfl := hzero hd
    cases hds.symm.trans (show Decimal.ofNat 0 = [0x30] by rw [Decimal.ofNat]; rfl)
    rw [hds, List.singleton_append]
    unfold readMagnitude
    dsimp only
    rw [if_pos rfl]
    rcases rest with _ | ⟨b, rest⟩
    · rfl
    · have hb : isDigit b = false := by
        rcases hrest b rfl with rfl | rfl | rfl <;> rfl
      dsimp only
      rw [hb]
      rfl
  · have hspan := span_append (fun _ => isDigit_of_mem_ofNat (n := n)) hrest
    have habsorb : absorb 0 (Decimal.ofNat n) = (n, (Decimal.ofNat n).length) := by
      have hvalue := toNat_ofNat n
      rw [Decimal.toNat] at hvalue
      rw [absorb_eq (by rw [hvalue]; exact h), hvalue]
    rw [hds] at hspan habsorb ⊢
    rw [List.cons_append] at hspan ⊢
    unfold readMagnitude
    dsimp only
    rw [if_neg hd, if_pos hdigit, hspan]
    dsimp only
    rw [habsorb]
    dsimp only
    rw [Nat.sub_self]

/-- A number without a fraction ends where its digits do. -/
theorem readAfterDigits_of_stops {negative : Bool} {n : Nat} {rest : Bytes} (hrest : Stops rest) :
    readAfterDigits negative n 0 rest =
      if !negative then .ok (.whole n, rest)
      else if n = 0 || UInt64.size / 2 < n then .ok (.real true (Double.ofNat n), rest)
      else .ok (.whole (-n), rest) := by
  unfold readAfterDigits
  split
  · rcases hrest 0x2e rfl with h | h | h <;> cases h
  · rcases hrest 0x65 rfl with h | h | h <;> cases h
  · rcases hrest 0x45 rfl with h | h | h <;> cases h
  · rw [if_neg (by simp)]

theorem readNumber_ofInt {n : Int} (hlow : -(UInt64.size / 2 : Nat) ≤ n)
    (hhigh : n ≤ largestSignificand) {rest : Bytes} (hrest : Stops rest) :
    readNumber (Decimal.ofInt n ++ rest) = .ok (.whole n, rest) := by
  have hsize : UInt64.size / 2 ≤ largestSignificand := by decide
  have hmagnitude := readMagnitude_ofNat (n := n.natAbs) (by omega) hrest
  unfold Decimal.ofInt
  by_cases hn : n < 0
  · have hwhole : ¬ (n.natAbs = 0 || UInt64.size / 2 < n.natAbs) = true := by
      simp only [Bool.or_eq_true, decide_eq_true_eq]
      omega
    rw [if_pos hn]
    show readMagnitude true (Decimal.ofNat n.natAbs ++ rest) = _
    rw [hmagnitude, readAfterDigits_of_stops hrest, if_neg (by decide), if_neg hwhole,
      show -(n.natAbs : Int) = n by omega]
  · obtain ⟨d, ds, hds, -⟩ := ofNat_eq_cons n.natAbs
    have hdigit : isDigit d = true := isDigit_of_mem_ofNat (hds ▸ List.mem_cons_self)
    have hpositive : readNumber (Decimal.ofNat n.natAbs ++ rest) =
        readMagnitude false (Decimal.ofNat n.natAbs ++ rest) := by
      rw [hds]
      unfold readNumber
      split
      · next heq =>
        cases heq
        cases hdigit
      · rfl
    rw [if_neg hn, hpositive, hmagnitude, readAfterDigits_of_stops hrest, if_pos (by decide),
      show (n.natAbs : Int) = n by omega]

theorem ofInt_eq_cons (n : Int) : ∃ b tail, Decimal.ofInt n = b :: tail ∧ startsNumber b = true := by
  unfold Decimal.ofInt
  split
  · exact ⟨0x2d, _, rfl, rfl⟩
  · obtain ⟨d, ds, hds, -⟩ := ofNat_eq_cons n.natAbs
    have hdigit : isDigit d = true := isDigit_of_mem_ofNat (hds ▸ List.mem_cons_self)
    exact ⟨d, ds, hds, by rw [startsNumber, hdigit, Bool.or_true]⟩

/-- What starts a number starts nothing else. -/
theorem startsNumber_ne {b c : UInt8} (hb : startsNumber b = true) (hc : startsNumber c = false) :
    b ≠ c := by
  rintro rfl
  rw [hb] at hc
  cases hc

theorem isBlank_of_startsNumber {b : UInt8} (h : startsNumber b = true) : isBlank b = false := by
  have hne (c : UInt8) (hc : startsNumber c = false) : decide (b = c) = false :=
    decide_eq_false (startsNumber_ne h hc)
  rw [isBlank, hne 0x20 rfl, hne 0x09 rfl, hne 0x0a rfl, hne 0x0d rfl]
  rfl

end Json

namespace IntKind

theorem toInt_signed (w : Width) (v : BitVec w.bits) : toInt ⟨true, w⟩ v = v.toInt :=
  rfl

theorem toInt_unsigned (w : Width) (v : BitVec w.bits) : toInt ⟨false, w⟩ v = v.toNat :=
  rfl

/-- Every value is in the range of its kind. -/
theorem toInt_mem_range (k : IntKind) (v : k.Value) :
    k.least ≤ k.toInt v ∧ k.toInt v ≤ k.greatest := by
  obtain ⟨signed, w⟩ := k
  cases signed with
  | false =>
    have hlt : v.toNat < 2 ^ w.bits := v.isLt
    have hleast : least ⟨false, w⟩ = 0 := by cases w <;> rfl
    have hgreatest : greatest ⟨false, w⟩ = (2 ^ w.bits - 1 : Nat) := by cases w <;> rfl
    rw [hleast, hgreatest, toInt_unsigned]
    omega
  | true =>
    have hlow : -2 ^ (w.bits - 1) ≤ v.toInt := BitVec.le_toInt v
    have hhigh : v.toInt < 2 ^ (w.bits - 1) := by cases w <;> exact BitVec.toInt_lt
    have hleast : least ⟨true, w⟩ = -2 ^ (w.bits - 1) := by cases w <;> rfl
    have hgreatest : greatest ⟨true, w⟩ = 2 ^ (w.bits - 1) - 1 := by cases w <;> rfl
    rw [hleast, hgreatest, toInt_signed]
    omega

/-- Numbers of all kinds fit 64 bits. -/
theorem range_le (k : IntKind) :
    -(UInt64.size / 2 : Nat) ≤ k.least ∧ k.greatest ≤ Json.largestSignificand := by
  obtain ⟨signed, w⟩ := k
  cases signed <;> cases w <;> decide

/-- A number leads back to its bit pattern. -/
theorem ofInt?_toInt (k : IntKind) (v : k.Value) : k.ofInt? (k.toInt v) = some v := by
  have hback : BitVec.ofInt k.width.bits (k.toInt v) = v := by
    obtain ⟨signed, w⟩ := k
    cases signed with
    | false => rw [toInt_unsigned, BitVec.ofInt_natCast, BitVec.ofNat_toNat, BitVec.setWidth_eq]
    | true => rw [toInt_signed, BitVec.ofInt_toInt]
  rw [ofInt?, if_pos (toInt_mem_range k v), hback]

end IntKind

end Switchboard
