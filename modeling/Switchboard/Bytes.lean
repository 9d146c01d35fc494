/-!
# Bytes

Byte strings, and numbers written on them least significant byte first. The two directions undo
each other: a number that `w` bytes have room for is recovered from them, and every byte string is
the writing of the number it denotes.
-/

namespace Switchboard

/-- A byte string. Readers take it from the front and hand back the rest. -/
abbrev Bytes := List UInt8

namespace Bytes

/-- The `w` least significant bytes of `n`, lowest first. -/
def ofNat : (w n : Nat) → Bytes
  | 0, _ => []
  | w + 1, n => UInt8.ofNat n :: ofNat w (n / 256)

/-- The number that a byte string denotes, lowest byte first. -/
def toNat : Bytes → Nat
  | [] => 0
  | b :: bs => b.toNat + 256 * toNat bs

/-- How many numbers `w` bytes can denote. -/
def capacity : (w : Nat) → Nat
  | 0 => 1
  | w + 1 => 256 * capacity w

/-- The first `w` bytes and the rest, when there are that many. -/
def split? (w : Nat) (bs : Bytes) : Option (Bytes × Bytes) :=
  if w ≤ bs.length then some (bs.take w, bs.drop w) else none

/-- The bytes of an ASCII text. -/
def ofAscii (s : String) : Bytes :=
  s.toList.map fun c => UInt8.ofNat c.toNat

@[simp] theorem length_ofNat (w n : Nat) : (ofNat w n).length = w := by
  induction w generalizing n with
  | zero => rfl
  | succ w ih => simp [ofNat, ih]

theorem toNat_lt (bs : Bytes) : toNat bs < capacity bs.length := by
  induction bs with
  | nil => simp [toNat, capacity]
  | cons b bs ih =>
    have hb : b.toNat < 256 := b.toNat_lt
    simp only [toNat, List.length_cons, capacity]
    omega

theorem toNat_ofNat (w n : Nat) : toNat (ofNat w n) = n % capacity w := by
  induction w generalizing n with
  | zero => simp [ofNat, toNat, capacity, Nat.mod_one]
  | succ w ih =>
    have h : (UInt8.ofNat n).toNat = n % 256 := by simp
    simp only [ofNat, toNat, ih, h, capacity, Nat.mod_mul]

theorem ofNat_toNat (bs : Bytes) : ofNat bs.length (toNat bs) = bs := by
  induction bs with
  | nil => rfl
  | cons b bs ih =>
    have hb : b.toNat < 256 := b.toNat_lt
    have h₁ : (b.toNat + 256 * toNat bs) / 256 = toNat bs := by omega
    have h₂ : UInt8.ofNat (b.toNat + 256 * toNat bs) = b := by
      apply UInt8.toNat_inj.mp
      rw [UInt8.toNat_ofNat']
      omega
    simp only [List.length_cons, toNat, ofNat, h₁, h₂, ih]

theorem split?_append (xs ys : Bytes) : split? xs.length (xs ++ ys) = some (xs, ys) := by
  simp [split?]

theorem split?_eq_some {w : Nat} {bs xs ys : Bytes} (h : split? w bs = some (xs, ys)) :
    bs = xs ++ ys ∧ xs.length = w := by
  unfold split? at h
  split at h
  · simp only [Option.some.injEq, Prod.mk.injEq] at h
    obtain ⟨rfl, rfl⟩ := h
    simp_all
  · simp at h

end Bytes

end Switchboard
