import Switchboard.Payload.Json.Fault
import Switchboard.Text.Utf8

/-!
# Texts in JSON

Texts stand between double quotes. Quote, backslash and the controls below the space are written
as escapes, all else as it is. Reading undoes the escapes first and checks the bytes afterwards,
so a text is refused as a whole if the result is not UTF-8.
-/

namespace Switchboard.Json

/-! ## Writing -/

/-- One hexadecimal digit in lower case. -/
def hexDigit (n : Nat) : UInt8 :=
  UInt8.ofNat (if n < 10 then 0x30 + n else 0x57 + n)

/-- The bytes of one character between quotes. -/
def escapeChar (c : Char) : Bytes :=
  match c.toNat with
  | 0x22 => [0x5c, 0x22]
  | 0x5c => [0x5c, 0x5c]
  | 0x08 => [0x5c, 0x62]
  | 0x0c => [0x5c, 0x66]
  | 0x0a => [0x5c, 0x6e]
  | 0x0d => [0x5c, 0x72]
  | 0x09 => [0x5c, 0x74]
  | n =>
    if n < 0x20 then [0x5c, 0x75, 0x30, 0x30, hexDigit (n / 16), hexDigit (n % 16)]
    else Utf8.encodeChar c

/-- A text between quotes. -/
def writeText (s : String) : Bytes :=
  0x22 :: (s.toList.flatMap escapeChar ++ [0x22])

/-! ## Reading -/

/-- The number of a hexadecimal digit in either case. -/
def hexValue? (b : UInt8) : Option Nat :=
  if 0x30 ≤ b && b ≤ 0x39 then some (b.toNat - 0x30)
  else if 0x61 ≤ b && b ≤ 0x66 then some (b.toNat - 0x57)
  else if 0x41 ≤ b && b ≤ 0x46 then some (b.toNat - 0x37)
  else none

/-- A reader that takes at least one byte. -/
abbrev Taker (α : Type) (bs : Bytes) : Type :=
  Except Fault (α × { rest : Bytes // rest.length < bs.length })

/-- Four hexadecimal digits. They are taken together before they are looked at. -/
def readHex4 (bs : Bytes) : Taker Nat bs :=
  match bs with
  | a :: b :: c :: d :: rest =>
    match hexValue? a, hexValue? b, hexValue? c, hexValue? d with
    | some a, some b, some c, some d =>
      .ok (a * 4096 + b * 256 + c * 16 + d, ⟨rest, by simp; omega⟩)
    | _, _, _, _ => fail .invalidEscape rest
  | _ => fail .endInText []

/-- Whether a number is the first half of a surrogate pair. -/
def isHighSurrogate (n : Nat) : Bool :=
  0xd800 ≤ n && n ≤ 0xdbff

/-- Whether a number is the second half of a surrogate pair. -/
def isLowSurrogate (n : Nat) : Bool :=
  0xdc00 ≤ n && n ≤ 0xdfff

/-- The `\u` and the second half of a pair whose first half was `high`. -/
def readLowSurrogate (high : Nat) (bs : Bytes) : Taker Char bs :=
  match bs with
  | [] => fail .endInText []
  | a :: as =>
    if a = 0x5c then
      match as with
      | [] => fail .endInText []
      | b :: rest =>
        if b = 0x75 then do
          let (low, rest) ← readHex4 rest
          if isLowSurrogate low then
            .ok (Char.ofNat (0x10000 + (high - 0xd800) * 1024 + (low - 0xdc00)),
              ⟨rest.1, by have := rest.2; simp; omega⟩)
          else fail .loneSurrogate rest.1
        else fail .unfinishedSurrogatePair rest
    else fail .unfinishedSurrogatePair as

/-- The character of a `\u` escape, its `\u` already taken. -/
def readUnicode (bs : Bytes) : Taker Char bs := do
  let (n, rest) ← readHex4 bs
  if isLowSurrogate n then fail .loneSurrogate rest.1
  else if isHighSurrogate n then do
    let (c, rest') ← readLowSurrogate n rest.1
    .ok (c, ⟨rest'.1, Nat.lt_trans rest'.2 rest.2⟩)
  else .ok (Char.ofNat n, rest)

/-- The character of an escape of two characters. -/
def shortEscape? (b : UInt8) : Option Char :=
  match b with
  | 0x22 => some '"'
  | 0x5c => some '\\'
  | 0x2f => some '/'
  | 0x62 => some '\x08'
  | 0x66 => some '\x0c'
  | 0x6e => some '\n'
  | 0x72 => some '\x0d'
  | 0x74 => some '\t'
  | _ => none

/-- The character of an escape, its backslash already taken. -/
def readEscape (bs : Bytes) : Taker Char bs :=
  match bs with
  | [] => fail .endInText []
  | b :: rest =>
    match shortEscape? b with
    | some c => .ok (c, ⟨rest, by simp⟩)
    | none =>
      if b = 0x75 then do
        let (c, rest') ← readUnicode rest
        .ok (c, ⟨rest'.1, by have := rest'.2; simp; omega⟩)
      else fail .invalidEscape rest

/-- The bytes of a text up to its closing quote, escapes undone. -/
def readBody (bs : Bytes) : Except Fault (Bytes × Bytes) :=
  match bs with
  | [] => fail .endInText []
  | b :: rest =>
    if b = 0x22 then .ok ([], rest)
    else if b = 0x5c then
      match readEscape rest with
      | .error f => .error f
      | .ok (c, ⟨rest, _h⟩) => do
        let (more, rest) ← readBody rest
        .ok (Utf8.encodeChar c ++ more, rest)
    else if b < 0x20 then fail .controlCharacter rest
    else do
      let (more, rest) ← readBody rest
      .ok (b :: more, rest)
termination_by bs.length
decreasing_by
  · simp; omega
  · simp

/-- A text, its opening quote already taken. What is wrong with the bytes is reported as far in
front of the closing quote as it is from the end of the undone text. -/
def readText : Reader String := fun bs => do
  let (text, rest) ← readBody bs
  match Utf8.toString? text with
  | .ok s => .ok (s, rest)
  | .error f => .error ⟨.invalidText, rest.length + (text.length - f.validUpTo)⟩

end Switchboard.Json
