import Switchboard.Payload.Json.Number
import Switchboard.Payload.Json.Text

/-!
# Skipping a value

A field that nobody asked for is passed over: its brackets, commas and colons have to be right, but
its texts and numbers are only scanned. The brackets that are open form a stack, so nesting has no
limit.
-/

namespace Switchboard.Json

/-- The letters of a literal behind its first. -/
def readLetters : Bytes → Bytes → Except Fault Bytes
  | [], bs => .ok bs
  | _ :: _, [] => fail .endInValue []
  | w :: ws, b :: rest => if b = w then readLetters ws rest else fail .wrongLiteral rest

/-- The rest of a literal that starts with a byte. -/
def literal? (b : UInt8) : Option Bytes :=
  match b with
  | 0x6e => some [0x75, 0x6c, 0x6c]
  | 0x74 => some [0x72, 0x75, 0x65]
  | 0x66 => some [0x61, 0x6c, 0x73, 0x65]
  | _ => none

/-- Passes over a text whose opening quote is already taken. -/
def skipText (bs : Bytes) : Except Fault Bytes :=
  match bs with
  | [] => fail .endInText []
  | b :: rest =>
    if b = 0x22 then .ok rest
    else if b = 0x5c then
      match rest with
      | [] => fail .endInText []
      | e :: rest =>
        match shortEscape? e with
        | some _ => skipText rest
        | none =>
          if e = 0x75 then
            match readHex4 rest with
            | .error f => .error f
            | .ok (_, ⟨rest, _h⟩) => skipText rest
          else fail .invalidEscape rest
    else if b < 0x20 then fail .controlCharacter (b :: rest)
    else skipText rest
termination_by bs.length
decreasing_by
  all_goals simp only [List.length_cons] at *; omega

/-- Passes over an exponent whose `e` is already taken. -/
def skipExponent (bs : Bytes) : Except Fault Bytes :=
  let bs :=
    match bs with
    | 0x2b :: rest | 0x2d :: rest => rest
    | bs => bs
  match bs with
  | [] => fail .invalidNumber []
  | d :: rest =>
    if Decimal.isDigit d then .ok (rest.dropWhile Decimal.isDigit) else fail .invalidNumber rest

/-- Passes over what may follow the whole digits of a number. -/
def skipAfterDigits (bs : Bytes) : Except Fault Bytes :=
  match bs with
  | 0x2e :: rest =>
    match Decimal.span rest with
    | ([], rest) => failAt .invalidNumber rest
    | (_, 0x65 :: rest) | (_, 0x45 :: rest) => skipExponent rest
    | (_, rest) => .ok rest
  | 0x65 :: rest | 0x45 :: rest => skipExponent rest
  | bs => .ok bs

/-- Passes over a number whose minus sign is already taken. -/
def skipMagnitude (bs : Bytes) : Except Fault Bytes :=
  match bs with
  | [] => fail .invalidNumber []
  | d :: rest =>
    if d = 0x30 then
      match rest with
      | [] => .ok []
      | e :: _ => if Decimal.isDigit e then failAt .invalidNumber rest else skipAfterDigits rest
    else if Decimal.isDigit d then skipAfterDigits (rest.dropWhile Decimal.isDigit)
    else fail .invalidNumber rest

/-- What is open around a value. -/
inductive Bracket
  | list
  | object
  deriving DecidableEq, Repr

/-- Passes over the key and the colon of an entry, if the innermost bracket is an object. -/
def skipKey (inner : Bracket) (bs : Bytes) : Except Fault Bytes :=
  match inner with
  | .list => .ok bs
  | .object =>
    match skipBlank bs with
    | [] => failAt .endInObject []
    | b :: rest =>
      if b = 0x22 then do
        match skipBlank (← skipText rest) with
        | [] => failAt .endInObject []
        | c :: rest => if c = 0x3a then .ok rest else failAt .expectedColon (c :: rest)
      else failAt .keyNotText (b :: rest)

/-- Whether a byte closes a bracket. -/
def closes (inner : Bracket) (b : UInt8) : Bool :=
  match inner with
  | .list => b = 0x5d
  | .object => b = 0x7d

/-- What stands between values: closes brackets as long as their ends follow, and stops in front
of the next value, or with an empty stack behind the last bracket. A comma is only in its place
behind a value. -/
def skipBetween (afterValue : Bool) : List Bracket → Bytes → Except Fault (List Bracket × Bytes)
  | [], bs => .ok ([], bs)
  | inner :: outer, bs =>
    match skipBlank bs with
    | [] => failAt (match inner with | .list => .endInList | .object => .endInObject) []
    | b :: rest =>
      if afterValue && b = 0x2c then do
        .ok (inner :: outer, ← skipKey inner rest)
      else if closes inner b then skipBetween true outer rest
      else if afterValue then
        failAt (match inner with
          | .list => .expectedCommaOrBracket
          | .object => .expectedCommaOrBrace) (b :: rest)
      else do
        .ok (inner :: outer, ← skipKey inner (b :: rest))

/-- Passes over values until the stack is empty. Each round takes at least one byte. -/
def skipValues : (fuel : Nat) → List Bracket → Bytes → Except Fault Bytes
  | 0, _, bs => failAt .endInValue bs
  | fuel + 1, stack, bs =>
    match skipBlank bs with
    | [] => failAt .endInValue []
    | b :: rest => do
      let (afterValue, stack, rest) ←
        match literal? b with
        | some letters => do .ok (true, stack, ← readLetters letters rest)
        | none =>
          if b = 0x2d then do .ok (true, stack, ← skipMagnitude rest)
          else if Decimal.isDigit b then do .ok (true, stack, ← skipMagnitude (b :: rest))
          else if b = 0x22 then do .ok (true, stack, ← skipText rest)
          else if b = 0x5b then .ok (false, .list :: stack, rest)
          else if b = 0x7b then .ok (false, .object :: stack, rest)
          else failAt .expectedValue (b :: rest)
      match ← skipBetween afterValue stack rest with
      | ([], rest) => .ok rest
      | (stack, rest) => skipValues fuel stack rest

/-- Passes over one value. -/
def skipValue (bs : Bytes) : Except Fault Bytes :=
  skipValues (bs.length + 1) [] bs

end Switchboard.Json
