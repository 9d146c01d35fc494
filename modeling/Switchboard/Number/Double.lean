/-!
# Doubles

Finite nonnegative binary floating-point numbers with 53 significant bits, computed exactly: an
operation forms the exact ratio and rounds it once, to the nearest double, a tie to the even
significand.
-/

namespace Switchboard

/-- The number `significand * 2 ^ exponent`. -/
structure Double where
  significand : Nat
  exponent : Int
  deriving DecidableEq, Repr

namespace Double

/-- The least significand of 53 bits. -/
def leastFull : Nat :=
  4503599627370496

/-- Nothing. -/
def zero : Double :=
  ⟨0, -1074⟩

/-- `num / den` to the nearest whole number, a half to the even one. -/
def roundDiv (num den : Nat) : Nat :=
  let quotient := num / den
  let twice := 2 * (num % den)
  if twice < den then quotient
  else if den < twice then quotient + 1
  else if quotient % 2 = 0 then quotient else quotient + 1

/-- `num / den * 2 ^ -exponent` as a ratio. -/
def scaled (num den : Nat) (exponent : Int) : Nat × Nat :=
  (num <<< (-exponent).toNat, den <<< exponent.toNat)

/-- The double nearest to `num / den`; none if that is beyond the largest one. -/
def ofRatio? (num den : Nat) : Option Double :=
  if num = 0 then some zero
  else
    let guess : Int := (num.log2 : Int) - den.log2 - 52
    let (n, d) := scaled num den guess
    let exponent := max (if n / d < leastFull then guess - 1 else guess) (-1074)
    let (n, d) := scaled num den exponent
    let significand := roundDiv n d
    let (significand, exponent) :=
      if significand = 2 * leastFull then (leastFull, exponent + 1) else (significand, exponent)
    if 971 < exponent then none else some ⟨significand, exponent⟩

/-- The double nearest to `a * b`. -/
def mul? (a b : Double) : Option Double :=
  let e := a.exponent + b.exponent
  ofRatio? ((a.significand * b.significand) <<< e.toNat) (1 <<< (-e).toNat)

/-- The double nearest to `a / b`, where `b` is not zero. -/
def div? (a b : Double) : Option Double :=
  let e := a.exponent - b.exponent
  ofRatio? (a.significand <<< e.toNat) (b.significand <<< (-e).toNat)

/-- The double nearest to a whole number below `2 ^ 1023`. -/
def ofNat (n : Nat) : Double :=
  (ofRatio? n 1).getD zero

/-- The double nearest to `n * 10 ^ exponent`. Powers far outside the range of doubles are never
formed. -/
def ofDecimal? (n : Nat) (exponent : Int) : Option Double :=
  let size := exponent + (toString n).length
  if n = 0 ∨ size < -400 then some zero
  else if 400 < size then none
  else ofRatio? (n * Nat.pow 10 exponent.toNat) (Nat.pow 10 (-exponent).toNat)

/-! ## The shortest decimal -/

/-- Four times the number and the ends of the interval of reals that round to it, all in units of
`2 ^ (exponent - 2)`. Below a power of two the neighbour is only half as far away. -/
def interval (x : Double) : Nat × Nat × Nat :=
  let m := x.significand
  let below := if m = leastFull ∧ -1074 < x.exponent then 1 else 2
  (4 * m - below, 4 * m, 4 * m + 2)

/-- The multiple of `10 ^ k` that reads back as `x` and is nearest to it, if there is one. -/
def onGrid? (x : Double) (k : Int) : Option Nat :=
  let (low, mid, high) := x.interval
  let unit := x.exponent - 2
  let num := Nat.pow 10 (-k).toNat <<< unit.toNat
  let den := Nat.pow 10 k.toNat <<< (-unit).toNat
  let readsBack (d : Nat) : Bool :=
    if x.significand % 2 = 0 then low * num ≤ d * den && d * den ≤ high * num
    else low * num < d * den && d * den < high * num
  let down := mid * num / den
  let up := down + 1
  let downOk := down ≠ 0 && readsBack down
  if downOk && (mid * num - down * den ≤ up * den - mid * num || !readsBack up) then some down
  else if readsBack up then some up
  else none

/-- The first grid, from `10 ^ k` downwards, that holds a decimal of `x`. -/
def searchGrid (x : Double) : (fuel : Nat) → (k : Int) → Nat × Int
  | 0, k => (0, k)
  | fuel + 1, k =>
    match x.onGrid? k with
    | some d => (d, k)
    | none => searchGrid x fuel (k - 1)

/-- Digits and exponent of the decimal with the fewest digits that reads back as `x`. -/
def shortest (x : Double) : Nat × Int :=
  if x.significand = 0 then (0, 0)
  else
    let whole := x.significand <<< x.exponent.toNat
    searchGrid x 700 (toString whole).length

/-- Digits with a point: `digits * 10 ^ exponent`, at least one digit on each side. -/
def positional (digits : String) (exponent : Int) : String :=
  if 0 ≤ exponent then
    digits ++ String.ofList (List.replicate exponent.toNat '0') ++ ".0"
  else
    let places := (-exponent).toNat
    let padded := List.replicate (places + 1 - digits.length) '0' ++ digits.toList
    let split := padded.length - places
    String.ofList (padded.take split) ++ "." ++ String.ofList (padded.drop split)

/-- One digit, the others behind a point, and the power of ten. -/
def scientific (digits : String) (exponent : Int) : String :=
  let power := exponent + digits.length - 1
  let rest := digits.toList.drop 1
  String.ofList (digits.toList.take 1) ++ (if rest.isEmpty then "" else "." ++ String.ofList rest)
    ++ (if power < 0 then "e-" else "e+") ++ toString power.natAbs

/-- The powers of ten that a text writes without an exponent; all of them if there is no range. -/
structure Style where
  positionalFrom : Int
  positionalTo : Int

/-- The shortest decimal of a number in a style. -/
def text (style : Option Style) (negative : Bool) (x : Double) : String :=
  let (n, exponent) := x.shortest
  let digits := toString n
  let power := exponent + digits.length - 1
  let plain := match style with
    | none => true
    | some s => s.positionalFrom ≤ power && power ≤ s.positionalTo
  (if negative then "-" else "")
    ++ if plain then positional digits exponent else scientific digits exponent

/-! ## Fixed places -/

/-- A number with a fixed number of digits behind the point, at least one; a half of the last one
goes to the even digit. -/
def fixed (places : Nat) (x : Double) : String :=
  let units := roundDiv ((x.significand <<< x.exponent.toNat) * Nat.pow 10 places)
    (1 <<< (-x.exponent).toNat)
  let digits := (toString units).toList
  let padded := List.replicate (places + 1 - digits.length) '0' ++ digits
  let split := padded.length - places
  String.ofList (padded.take split) ++ "." ++ String.ofList (padded.drop split)

end Double

end Switchboard
