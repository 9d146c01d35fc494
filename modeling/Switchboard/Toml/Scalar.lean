import Switchboard.Toml.Text
import Switchboard.Toml.Value

/-!
# Numbers, dates and words

A run of characters that is neither a text nor a list nor a table is a number, a date, a time of
day or one of a few words.
-/

namespace Switchboard.Toml

/-- Digits without the single underscores that may stand between them. -/
def digits? (isDigit : Char → Bool) : List Char → Option (List Char)
  | [] => none
  | c :: rest =>
    if isDigit c then
      match rest with
      | [] => some [c]
      | '_' :: after => (digits? isDigit after).map (c :: ·)
      | rest => (digits? isDigit rest).map (c :: ·)
    else none

/-- The number that digits of a base denote. -/
def number (base : Nat) (digits : List Char) : Nat :=
  digits.foldl (fun n c => base * n + (digitValue? c).getD 0) 0

/-- Decimal digits without a leading zero. -/
def decimal? (cs : List Char) : Option (List Char) :=
  match cs with
  | '0' :: _ :: _ => none
  | cs => digits? Char.isDigit cs

/-- A sign, if there is one: whether it is a minus, and the rest. -/
def signed (cs : List Char) : Bool × List Char :=
  match cs with
  | '-' :: rest => (true, rest)
  | '+' :: rest => (false, rest)
  | cs => (false, cs)

/-- A whole number of 64 bits. -/
def bounded? (n : Int) : Option Value :=
  if Int64.minValue.toInt ≤ n ∧ n ≤ Int64.maxValue.toInt then some (.whole n) else none

/-- A whole number, in base ten with a sign or in base 16, 8 or 2 after a mark. -/
def whole? (token : List Char) : Option Value :=
  let marked (base : Nat) (isDigit : Char → Bool) (cs : List Char) : Option Value := do
    bounded? (number base (← digits? isDigit cs))
  match token with
  | '0' :: 'x' :: rest => marked 16 (fun c => (digitValue? c).isSome) rest
  | '0' :: 'o' :: rest => marked 8 (fun c => '0' ≤ c && c ≤ '7') rest
  | '0' :: 'b' :: rest => marked 2 (fun c => c = '0' || c = '1') rest
  | token => do
    let (negative, cs) := signed token
    let n : Int := number 10 (← decimal? cs)
    bounded? (if negative then -n else n)

/-- The power of ten behind a letter `e`; zero if there is nothing. -/
def power? (cs : List Char) : Option Int :=
  match cs with
  | [] => some 0
  | e :: rest =>
    if e = 'e' ∨ e = 'E' then do
      let (negative, cs) := signed rest
      let n : Int := number 10 (← digits? Char.isDigit cs)
      return if negative then -n else n
    else none

/-- The digits behind a point and what follows them; no digits if there is no point. -/
def fraction? (cs : List Char) : Option (List Char × List Char) :=
  match cs with
  | '.' :: rest =>
    let (places, after) := rest.span fun c => c.isDigit || c = '_'
    (digits? Char.isDigit places).map (·, after)
  | cs => some ([], cs)

/-- A number with a fraction or a power of ten. One that is too large is refused, unless it is
negative. -/
def real? (token : List Char) : Option Value :=
  let (negative, cs) := signed token
  if cs = "inf".toList then some (.real (.infinite negative))
  else if cs = "nan".toList then some (.real .notANumber)
  else do
    let (before, after) := cs.span fun c => c.isDigit || c = '_'
    let digits ← decimal? before
    guard !after.isEmpty
    let (places, after) ← fraction? after
    let power ← power? after
    match Double.ofDecimal? (number 10 (digits ++ places)) (power - places.length) with
    | some x => some (.real (.finite negative x))
    | none => if negative then some (.real (.infinite true)) else none

/-! ## Dates and times of day -/

/-- A number of exactly two digits within bounds, and what follows it. -/
def twoDigits? (low high : Nat) : List Char → Option (Nat × List Char)
  | a :: b :: rest =>
    let n := number 10 [a, b]
    if a.isDigit && b.isDigit && low ≤ n && n ≤ high then some (n, rest) else none
  | _ => none

/-- What follows a given character. -/
def after? (c : Char) : List Char → Option (List Char)
  | d :: rest => if d = c then some rest else none
  | [] => none

/-- The number of days in a month. -/
def daysIn (year month : Nat) : Nat :=
  if month = 2 then
    if year % 4 = 0 ∧ (year % 100 ≠ 0 ∨ year % 400 = 0) then 29 else 28
  else if month = 4 ∨ month = 6 ∨ month = 9 ∨ month = 11 then 30
  else 31

/-- What follows a date. -/
def date? (cs : List Char) : Option (List Char) := do
  let year := cs.take 4
  guard (year.length = 4 ∧ year.all Char.isDigit)
  let (month, cs) ← twoDigits? 1 12 (← after? '-' (cs.drop 4))
  let (_, cs) ← twoDigits? 1 (daysIn (number 10 year) month) (← after? '-' cs)
  return cs

/-- What follows a time of day. A minute can have 61 seconds. -/
def time? (cs : List Char) : Option (List Char) := do
  let (_, cs) ← twoDigits? 0 23 cs
  let (_, cs) ← twoDigits? 0 59 (← after? ':' cs)
  let (_, cs) ← twoDigits? 0 60 (← after? ':' cs)
  match cs with
  | '.' :: rest =>
    let (places, after) := rest.span Char.isDigit
    if places.isEmpty then none else some after
  | cs => some cs

/-- Whether this is the distance from universal time, or nothing. -/
def isOffset (cs : List Char) : Bool :=
  match cs with
  | [] | ['Z'] | ['z'] => true
  | sign :: rest =>
    (sign = '+' || sign = '-') &&
      (do
        let (_, cs) ← twoDigits? 0 23 rest
        let (_, cs) ← twoDigits? 0 59 (← after? ':' cs)
        return cs.isEmpty : Option Bool).getD false

/-- Whether this is a date. -/
def isDate (token : List Char) : Bool :=
  date? token = some []

/-- Whether this is a time of day, perhaps with the distance from universal time. -/
def isZonedTime (token : List Char) : Bool :=
  match time? token with
  | some rest => isOffset rest
  | none => false

/-- Whether this is a date, a time of day or both. -/
def isMoment (token : List Char) : Bool :=
  time? token = some [] ||
    match date? token with
    | some [] => true
    | some (c :: rest) => (c = 'T' || c = 't') && isZonedTime rest
    | none => false

/-! ## Any of these -/

/-- The value of a run of characters. -/
def scalar? (token : List Char) : Option Value :=
  if token = "true".toList then some (.boolean true)
  else if token = "false".toList then some (.boolean false)
  else if isMoment token then some (.moment (String.ofList token))
  else whole? token <|> real? token

/-- Reads a number, a date or a word. A time of day can follow a date after one space. -/
def readScalar (cs : List Char) : Option (Value × List Char) := do
  let (token, rest) := cs.span isToken
  match rest with
  | ' ' :: after =>
    let (more, behind) := after.span isToken
    if isDate token && isZonedTime more then
      return (.moment (String.ofList (token ++ ' ' :: more)), behind)
  | _ => pure ()
  return (← scalar? token, rest)

end Switchboard.Toml
