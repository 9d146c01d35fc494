import Switchboard.Bytes

/-!
# Byte order

How the two-byte identifier and the four-byte length of a frame are laid out. Both ends of a
connection have to agree on it; reading is the inverse of writing under one order.
-/

namespace Switchboard

/-- Which byte of a number comes first on the wire. -/
inductive ByteOrder
  | big
  | little
  deriving DecidableEq, Repr, Inhabited

namespace ByteOrder

/-- The two bytes of a 16-bit number. -/
def encode16 (o : ByteOrder) (n : UInt16) : UInt8 × UInt8 :=
  let low := UInt8.ofNat n.toNat
  let high := UInt8.ofNat (n.toNat / 256)
  match o with
  | .big => (high, low)
  | .little => (low, high)

/-- The 16-bit number on two bytes. -/
def decode16 (o : ByteOrder) (b : UInt8 × UInt8) : UInt16 :=
  match o with
  | .big => UInt16.ofNat (Bytes.toNat [b.2, b.1])
  | .little => UInt16.ofNat (Bytes.toNat [b.1, b.2])

/-- The four bytes of a 32-bit number. -/
def encode32 (o : ByteOrder) (n : UInt32) : Bytes :=
  let low := Bytes.ofNat 4 n.toNat
  match o with
  | .big => low.reverse
  | .little => low

/-- The 32-bit number on four bytes. -/
def decode32 (o : ByteOrder) (b₀ b₁ b₂ b₃ : UInt8) : UInt32 :=
  match o with
  | .big => UInt32.ofNat (Bytes.toNat [b₃, b₂, b₁, b₀])
  | .little => UInt32.ofNat (Bytes.toNat [b₀, b₁, b₂, b₃])

/-- The word that configuration files use for an order. -/
def name : ByteOrder → String
  | .big => "big"
  | .little => "little"

/-- The word that descriptions use for an order. -/
def describe : ByteOrder → String
  | .big => "BigEndian"
  | .little => "LittleEndian"

/-- The order that a configuration word stands for. -/
def ofName? (s : String) : Option ByteOrder :=
  if s = "big" then some .big else if s = "little" then some .little else none

@[simp] theorem decode16_encode16 (o : ByteOrder) (n : UInt16) : o.decode16 (o.encode16 n) = n := by
  have hn : n.toNat < 65536 := n.toNat_lt
  apply UInt16.toNat_inj.mp
  cases o <;> simp [encode16, decode16, Bytes.toNat] <;> omega

@[simp] theorem encode16_decode16 (o : ByteOrder) (b : UInt8 × UInt8) :
    o.encode16 (o.decode16 b) = b := by
  obtain ⟨x, y⟩ := b
  have hx : x.toNat < 256 := x.toNat_lt
  have hy : y.toNat < 256 := y.toNat_lt
  cases o <;> simp only [encode16, decode16, Bytes.toNat, Prod.mk.injEq] <;>
    constructor <;> apply UInt8.toNat_inj.mp <;> simp <;> omega

@[simp] theorem length_encode32 (o : ByteOrder) (n : UInt32) : (o.encode32 n).length = 4 := by
  cases o <;> simp [encode32]

/-- Four bytes denote a number that 32 bits have room for. -/
theorem toNat_ofNat_toNat {bs : Bytes} (h : bs.length = 4) :
    (UInt32.ofNat (Bytes.toNat bs)).toNat = Bytes.toNat bs := by
  have hlt := Bytes.toNat_lt bs
  rw [h] at hlt
  rw [UInt32.toNat_ofNat']
  exact Nat.mod_eq_of_lt hlt

@[simp] theorem encode32_decode32 (o : ByteOrder) (a b c d : UInt8) :
    o.encode32 (o.decode32 a b c d) = [a, b, c, d] := by
  cases o with
  | big =>
    have h := Bytes.ofNat_toNat [d, c, b, a]
    simp only [encode32, decode32]
    rw [toNat_ofNat_toNat rfl]
    exact congrArg List.reverse h
  | little =>
    have h := Bytes.ofNat_toNat [a, b, c, d]
    simp only [encode32, decode32]
    rw [toNat_ofNat_toNat rfl]
    exact h

theorem encode32_inj {o : ByteOrder} {m n : UInt32} (h : o.encode32 m = o.encode32 n) : m = n := by
  have hlow : Bytes.ofNat 4 m.toNat = Bytes.ofNat 4 n.toNat := by
    cases o with
    | big => exact List.reverse_inj.mp h
    | little => exact h
  have hnum := congrArg Bytes.toNat hlow
  have hm := m.toNat_lt
  have hn := n.toNat_lt
  rw [Bytes.toNat_ofNat, Bytes.toNat_ofNat] at hnum
  simp only [Bytes.capacity] at hnum
  apply UInt32.toNat_inj.mp
  omega

end ByteOrder

end Switchboard
