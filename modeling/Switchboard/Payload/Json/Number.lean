import Switchboard.Number.Decimal
import Switchboard.Payload.Json.Fault

/-!
# Numbers in JSON

A number without fraction and exponent that fits 64 bits is whole; every other one is the double
that its first digits, up to 64 bits, and its power of ten give.
-/

namespace Switchboard.Json

/-- A number as read. -/
inductive Number
  | whole (n : Int)
  | real (negative : Bool) (x : Double)
  deriving DecidableEq, Repr

/-- What a mismatch calls a number. -/
def Number.found : Number → Found
  | .whole n => .whole n
  | .real negative x => .real (.finite negative x)

/-- The largest significand that digits are gathered in. -/
def largestSignificand : Nat :=
  UInt64.size - 1

/-- Appends digits to a number while it fits; how many did, is the second part. -/
def absorb (n : Nat) : Bytes → Nat × Nat
  | [] => (n, 0)
  | d :: ds =>
    let n' := 10 * n + Decimal.digit d
    if n' ≤ largestSignificand then
      let (m, count) := absorb n' ds
      (m, count + 1)
    else (n, 0)

/-- The largest power of ten that one step multiplies or divides by. -/
def largestStep : Int :=
  308

/-- `10 ^ k` as a double, for `k` up to 308. -/
def tenTo (k : Nat) : Double :=
  (Double.ofDecimal? 1 k).getD Double.zero

/-- `x * 10 ^ exponent` in steps of at most 308 places, each rounded; none beyond all doubles. -/
def scale? (x : Double) (exponent : Int) : Option Double :=
  if exponent.natAbs ≤ 308 then
    if 0 ≤ exponent then x.mul? (tenTo exponent.natAbs) else x.div? (tenTo exponent.natAbs)
  else if x.significand = 0 then some x
  else if 0 ≤ exponent then none
  else
    match x.div? (tenTo 308) with
    | none => none
    | some x => scale? x (exponent + 308)
termination_by exponent.natAbs

/-- The double of a significand and a power of ten, its text ending in front of `rest`. -/
def realOf (negative : Bool) (significand : Nat) (exponent : Int) : Reader Number := fun rest =>
  match scale? (Double.ofNat significand) exponent with
  | some x => .ok (.real negative x, rest)
  | none => fail .numberOutOfRange rest

/-- The largest exponent that digits are gathered in. -/
def largestExponent : Nat :=
  2147483647

/-- The digits of an exponent as a number; none if it is too large, stopping there. -/
def readExponentDigits (n : Nat) : Bytes → Option Nat × Bytes
  | [] => (some n, [])
  | d :: rest =>
    if Decimal.isDigit d then
      let n' := 10 * n + Decimal.digit d
      if n' ≤ largestExponent then readExponentDigits n' rest else (none, rest)
    else (some n, d :: rest)

/-- What follows the `e`: a sign or none, and digits. -/
def readExponent (negative : Bool) (significand : Nat) (start : Int) : Reader Number := fun bs =>
  let (down, bs) :=
    match bs with
    | 0x2b :: rest => (false, rest)
    | 0x2d :: rest => (true, rest)
    | bs => (false, bs)
  match bs with
  | [] => fail .endInValue []
  | d :: rest =>
    if Decimal.isDigit d then
      match readExponentDigits 0 bs with
      | (some n, rest) =>
        realOf negative significand (if down then start - n else start + n) rest
      | (none, rest) =>
        if significand ≠ 0 && !down then fail .numberOutOfRange rest
        else .ok (.real negative Double.zero, rest.dropWhile Decimal.isDigit)
    else fail .invalidNumber rest

/-- An exponent if there is one. -/
def readScale (negative : Bool) (significand : Nat) (exponent : Int) : Reader Number := fun bs =>
  match bs with
  | 0x65 :: rest | 0x45 :: rest => readExponent negative significand exponent rest
  | bs => realOf negative significand exponent bs

/-- What follows the point: digits, and an exponent or none. -/
def readFraction (negative : Bool) (significand : Nat) (exponent : Int) : Reader Number := fun bs =>
  match Decimal.span bs with
  | ([], []) => failAt .endInValue []
  | ([], rest) => failAt .invalidNumber rest
  | (digits, rest) =>
    let (significand, count) := absorb significand digits
    readScale negative significand (exponent - count) rest

/-- What follows the whole digits, of which `extra` did not fit the significand. A negative number
that has no 64-bit form, zero among them, is a double. -/
def readAfterDigits (negative : Bool) (significand extra : Nat) : Reader Number := fun bs =>
  match bs with
  | 0x2e :: rest => readFraction negative significand extra rest
  | 0x65 :: rest | 0x45 :: rest => readExponent negative significand extra rest
  | bs =>
    if extra ≠ 0 then realOf negative significand extra bs
    else if !negative then .ok (.whole significand, bs)
    else if significand = 0 || UInt64.size / 2 < significand then
      .ok (.real true (Double.ofNat significand), bs)
    else .ok (.whole (-significand), bs)

/-- A number, its minus sign already taken. A zero in front stands alone. -/
def readMagnitude (negative : Bool) : Reader Number := fun bs =>
  match bs with
  | [] => fail .endInValue []
  | d :: rest =>
    if d = 0x30 then
      match rest with
      | [] => readAfterDigits negative 0 0 rest
      | e :: _ =>
        if Decimal.isDigit e then failAt .invalidNumber rest
        else readAfterDigits negative 0 0 rest
    else if Decimal.isDigit d then
      let (digits, rest) := Decimal.span bs
      let (significand, count) := absorb 0 digits
      readAfterDigits negative significand (digits.length - count) rest
    else fail .invalidNumber rest

/-- Whether a byte starts a number. -/
def startsNumber (b : UInt8) : Bool :=
  b = 0x2d || Decimal.isDigit b

/-- A number. -/
def readNumber : Reader Number := fun bs =>
  match bs with
  | 0x2d :: rest => readMagnitude true rest
  | bs => readMagnitude false bs

end Switchboard.Json
