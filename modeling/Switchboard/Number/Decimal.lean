import Switchboard.Bytes

/-!
# Decimal numerals

Whole numbers as ASCII digits, without leading zeros, and digits as numbers.
-/

namespace Switchboard.Decimal

/-- Whether a byte is an ASCII digit. -/
def isDigit (b : UInt8) : Bool :=
  0x30 ≤ b && b ≤ 0x39

/-- The number that a digit stands for. -/
def digit (b : UInt8) : Nat :=
  b.toNat - 0x30

/-- The digits of a natural number. -/
def ofNat (n : Nat) : Bytes :=
  if n < 10 then [UInt8.ofNat (0x30 + n)]
  else ofNat (n / 10) ++ [UInt8.ofNat (0x30 + n % 10)]

/-- The digits of a whole number, after a minus sign if it is negative. -/
def ofInt (n : Int) : Bytes :=
  if n < 0 then 0x2d :: ofNat n.natAbs else ofNat n.natAbs

/-- The number that digits denote, most significant first. -/
def toNat (ds : Bytes) : Nat :=
  ds.foldl (fun n d => 10 * n + digit d) 0

/-- The digits at the front, and the rest. -/
def span (bs : Bytes) : Bytes × Bytes :=
  (bs.takeWhile isDigit, bs.dropWhile isDigit)

end Switchboard.Decimal
