import Switchboard.Bytes

/-!
# Addresses

Internet addresses with a port, as texts. An address of four bytes is written with points; one of
eight groups is written in hexadecimal, the longest run of zero groups left out, and stands in
brackets in front of a port.
-/

namespace Switchboard

/-- The address of an interface. -/
inductive IpAddress
  | v4 (a b c d : UInt8)
  /-- Eight groups, and the number of the interface they belong to. -/
  | v6 (groups : Vector UInt16 8) (scope : Nat)
  deriving DecidableEq, Repr

/-- An address and a port. -/
structure SocketAddress where
  ip : IpAddress
  port : UInt16
  deriving DecidableEq, Repr

/-! ## Writing -/

namespace IpAddress

/-- Four numbers with points between them. -/
def points (bytes : List Nat) : String :=
  ".".intercalate (bytes.map toString)

/-- Groups in hexadecimal with colons between them. -/
def groupText (groups : List Nat) : String :=
  ":".intercalate (groups.map fun g => String.ofList (Nat.toDigits 16 g))

/-- Length and start of the zeros at the front of groups that start at `at_`. -/
def zerosFrom (groups : List Nat) : Nat :=
  (groups.takeWhile (· = 0)).length

/-- Start and length of the longest run of zero groups, the first one of equals. -/
def longestZeros (groups : List Nat) : Nat × Nat :=
  (List.range groups.length).foldl
    (fun best i =>
      let n := zerosFrom (groups.drop i)
      if best.2 < n then (i, n) else best)
    (0, 0)

/-- Eight groups, the longest run of at least two zeros left out. Addresses that stand for four
bytes show these with points. -/
def v6Text (groups : List Nat) : String :=
  match groups with
  | [0, 0, 0, 0, 0, 0xffff, x, y] =>
    "::ffff:" ++ points [x / 256, x % 256, y / 256, y % 256]
  | _ =>
    let (start, length) := longestZeros groups
    if length < 2 then groupText groups
    else groupText (groups.take start) ++ "::" ++ groupText (groups.drop (start + length))

end IpAddress

/-- The text of an address with its port. -/
def SocketAddress.text (a : SocketAddress) : String :=
  match a.ip with
  | .v4 b₀ b₁ b₂ b₃ =>
    IpAddress.points [b₀.toNat, b₁.toNat, b₂.toNat, b₃.toNat] ++ ":" ++ toString a.port
  | .v6 groups scope =>
    let ip := IpAddress.v6Text (groups.toList.map UInt16.toNat)
    let zone := if scope = 0 then "" else "%" ++ toString scope
    "[" ++ ip ++ zone ++ "]:" ++ toString a.port

/-! ## Reading -/

namespace IpAddress

/-- The value of a digit in a base up to 16. -/
def digit? (base : Nat) (c : Char) : Option Nat :=
  let n := c.toNat
  let value? :=
    if 0x30 ≤ n && n ≤ 0x39 then some (n - 0x30)
    else if 0x61 ≤ n && n ≤ 0x66 then some (n - 0x57)
    else if 0x41 ≤ n && n ≤ 0x46 then some (n - 0x37)
    else none
  value?.filter (· < base)

/-- A number of any length in a base. -/
def number? (base : Nat) (cs : List Char) : Option Nat :=
  if cs.isEmpty then none
  else cs.foldlM (fun n c => (digit? base c).map (base * n + ·)) 0

/-- A decimal number below `bound`, without leading zeros. -/
def decimal? (bound : Nat) (cs : List Char) : Option Nat :=
  match cs with
  | '0' :: _ :: _ => none
  | _ => (number? 10 cs).filter (· < bound)

/-- The parts of a text between separators. -/
def splitAt (separator : Char) (cs : List Char) : List (List Char) :=
  cs.splitOnP (· = separator)

/-- Four decimal numbers with points between them. -/
def v4? (cs : List Char) : Option (Nat × Nat × Nat × Nat) :=
  match (splitAt '.' cs).mapM (decimal? 256) with
  | some [a, b, c, d] => some (a, b, c, d)
  | _ => none

/-- Groups with colons between them; the last two may be written with points. -/
def groups? (cs : List Char) : Option (List Nat) :=
  if cs.isEmpty then some []
  else
    let parts := splitAt ':' cs
    let last := parts.getLastD []
    let group? (g : List Char) : Option Nat :=
      if g.length ≤ 4 then number? 16 g else none
    if last.contains '.' then do
      let (a, b, c, d) ← v4? last
      let groups ← parts.dropLast.mapM group?
      return groups ++ [256 * a + b, 256 * c + d]
    else parts.mapM group?

/-- The text in front of the first `::` and behind it. -/
def splitGap : List Char → Option (List Char × List Char)
  | ':' :: ':' :: rest => some ([], rest)
  | c :: rest => (splitGap rest).map fun p => (c :: p.1, p.2)
  | [] => none

/-- Eight groups, of which a run may be left out. -/
def v6Groups? (cs : List Char) : Option (Vector UInt16 8) := do
  let groups ← match splitGap cs with
    | none => groups? cs
    | some (front, back) => do
      -- what is written with points is at the very end
      if front.contains '.' then none
      let front ← groups? front
      let back ← groups? back
      if 8 ≤ front.length + back.length then none
      some (front ++ List.replicate (8 - front.length - back.length) 0 ++ back)
  let groups := (groups.map UInt16.ofNat).toArray
  if h : groups.size = 8 then some ⟨groups, h⟩ else none

/-- An address of four bytes. -/
def ofV4 (p : Nat × Nat × Nat × Nat) : IpAddress :=
  .v4 (UInt8.ofNat p.1) (UInt8.ofNat p.2.1) (UInt8.ofNat p.2.2.1) (UInt8.ofNat p.2.2.2)

/-- One part of the loose numeric form: hexadecimal after `0x`, octal after `0`, else decimal. -/
def loosePart? (cs : List Char) : Option Nat :=
  match cs with
  | '0' :: 'x' :: rest | '0' :: 'X' :: rest => number? 16 rest
  | '0' :: rest@(_ :: _) => number? 8 rest
  | cs => number? 10 cs

/-- One to four numbers with points between them, of which the last fills all bytes that are left. -/
def loose? (cs : List Char) : Option IpAddress := do
  let parts ← (splitAt '.' cs).mapM loosePart?
  let last := parts.getLastD 0
  let front := parts.dropLast
  if 3 < front.length || front.any (255 < ·) || Bytes.capacity (4 - front.length) ≤ last then none
  let high := front.foldl (fun n p => 256 * n + p) 0
  let n := high * Bytes.capacity (4 - front.length) + last
  some (ofV4 (n / 16777216, n / 65536 % 256, n / 256 % 256, n % 256))

end IpAddress

namespace SocketAddress

/-- The text in front of the last colon and behind it. -/
def splitPort? (cs : List Char) : Option (List Char × List Char) :=
  let back := cs.reverse.takeWhile (· ≠ ':')
  match cs.reverse.drop back.length with
  | [] => none
  | _ :: front => some (front.reverse, back.reverse)

/-- A port: a decimal number, leading zeros allowed. -/
def port? (cs : List Char) : Option UInt16 :=
  ((IpAddress.number? 10 cs).filter (· < UInt16.size)).map UInt16.ofNat

/-- An address in brackets, and the number of its interface behind a percent sign. -/
def bracketed? (cs : List Char) : Option IpAddress := do
  let inside ← match cs with
    | '[' :: rest => if rest.getLastD ' ' = ']' then some rest.dropLast else none
    | _ => none
  match splitAt? inside with
  | (ip, none) => return .v6 (← IpAddress.v6Groups? ip) 0
  | (ip, some zone) =>
    let scope ← (IpAddress.number? 10 zone).filter (· < UInt32.size)
    return .v6 (← IpAddress.v6Groups? ip) scope
where
  splitAt? (cs : List Char) : List Char × Option (List Char) :=
    match cs.dropWhile (· ≠ '%') with
    | [] => (cs, none)
    | _ :: zone => (cs.takeWhile (· ≠ '%'), some zone)

/-- An address with a port in its exact form. -/
def ofText? (s : String) : Option SocketAddress := do
  let (host, port) ← splitPort? s.toList
  let port ← port? port
  match IpAddress.v4? host with
  | some p => return ⟨IpAddress.ofV4 p, port⟩
  | none => return ⟨← bracketed? host, port⟩

/-- A numeric host with a port: the exact forms, and the loose ones that name resolution takes. -/
def resolve? (host : String) (port : UInt16) : Option SocketAddress :=
  match ofText? (host ++ ":" ++ toString port) with
  | some a => some a
  | none =>
    let cs := host.toList
    match IpAddress.loose? cs with
    | some ip => some ⟨ip, port⟩
    | none => (IpAddress.v6Groups? cs).map fun groups => ⟨.v6 groups 0, port⟩

end SocketAddress

end Switchboard
