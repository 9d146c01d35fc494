import Switchboard.Bytes

/-!
# UTF-8

Characters as bytes and back. Reading stops at the first byte that cannot continue a well-formed
text and says where the text was last good, and how many bytes are to blame.
-/

namespace Switchboard.Utf8

/-- How many bytes the character takes that starts with `lead`; 0 for a byte that starts none. -/
def width (lead : UInt8) : Nat :=
  if lead ≤ 0x7f then 1
  else if lead < 0xc2 then 0
  else if lead ≤ 0xdf then 2
  else if lead ≤ 0xef then 3
  else if lead ≤ 0xf4 then 4
  else 0

/-- Any continuation byte. -/
def isTail (b : UInt8) : Bool :=
  0x80 ≤ b && b ≤ 0xbf

/-- What may follow the lead byte: the ranges shut out overlong forms, surrogates and values
above the last code point. -/
def isSecond (lead b : UInt8) : Bool :=
  if lead = 0xe0 then 0xa0 ≤ b && b ≤ 0xbf
  else if lead = 0xed then 0x80 ≤ b && b ≤ 0x9f
  else if lead = 0xf0 then 0x90 ≤ b && b ≤ 0xbf
  else if lead = 0xf4 then 0x80 ≤ b && b ≤ 0x8f
  else isTail b

/-- The bytes of one character. -/
def encodeChar (c : Char) : Bytes :=
  let n := c.toNat
  if n < 0x80 then [UInt8.ofNat n]
  else if n < 0x800 then [UInt8.ofNat (0xc0 + n / 64), UInt8.ofNat (0x80 + n % 64)]
  else if n < 0x10000 then
    [UInt8.ofNat (0xe0 + n / 4096), UInt8.ofNat (0x80 + n / 64 % 64), UInt8.ofNat (0x80 + n % 64)]
  else
    [UInt8.ofNat (0xf0 + n / 262144), UInt8.ofNat (0x80 + n / 4096 % 64),
      UInt8.ofNat (0x80 + n / 64 % 64), UInt8.ofNat (0x80 + n % 64)]

/-- The bytes of a list of characters. -/
def encode (cs : List Char) : Bytes :=
  cs.flatMap encodeChar

/-- The bytes of a text. -/
def ofString (s : String) : Bytes :=
  encode s.toList

/-- What the next bytes are. -/
inductive Step
  /-- One character, and what follows it. -/
  | char (c : Char) (rest : Bytes)
  /-- No byte is left. -/
  | done
  /-- The first `length` bytes cannot be continued by the byte after them. -/
  | bad (length : Nat)
  /-- The bytes could be continued, but end here. -/
  | cut

/-- The six bits that a continuation byte carries. -/
def payload (b : UInt8) : Nat :=
  b.toNat % 64

/-- Reads the character at the front. -/
def next : Bytes → Step
  | [] => .done
  | a :: as =>
    match width a with
    | 1 => .char (Char.ofNat a.toNat) as
    | 2 =>
      match as with
      | [] => .cut
      | b :: bs =>
        if isSecond a b then .char (Char.ofNat (a.toNat % 32 * 64 + payload b)) bs else .bad 1
    | 3 =>
      match as with
      | [] => .cut
      | b :: bs =>
        if isSecond a b then
          match bs with
          | [] => .cut
          | c :: cs =>
            if isTail c then
              .char (Char.ofNat (a.toNat % 16 * 4096 + payload b * 64 + payload c)) cs
            else .bad 2
        else .bad 1
    | 4 =>
      match as with
      | [] => .cut
      | b :: bs =>
        if isSecond a b then
          match bs with
          | [] => .cut
          | c :: cs =>
            if isTail c then
              match cs with
              | [] => .cut
              | d :: ds =>
                if isTail d then
                  .char (Char.ofNat
                    (a.toNat % 8 * 262144 + payload b * 4096 + payload c * 64 + payload d)) ds
                else .bad 3
            else .bad 2
        else .bad 1
    | _ => .bad 1

/-- Why bytes are not a text. -/
inductive Fault
  /-- `length` bytes starting at `index` are wrong. -/
  | invalid (length index : Nat)
  /-- The character that starts at `index` is not finished. -/
  | incomplete (index : Nat)
  deriving DecidableEq, Repr

namespace Fault

/-- How many bytes in front of the fault are a text. -/
def validUpTo : Fault → Nat
  | .invalid _ i => i
  | .incomplete i => i

def message : Fault → String
  | .invalid n i => s!"invalid utf-8 sequence of {n} bytes from index {i}"
  | .incomplete i => s!"incomplete utf-8 byte sequence from index {i}"

end Fault

theorem next_shorter {bs rest : Bytes} {c : Char} (h : next bs = .char c rest) :
    rest.length < bs.length := by
  unfold next at h
  repeat' split at h
  all_goals first
    | (injection h with _ h; subst h; simp; done)
    | (injection h with _ h; subst h; simp; omega)
    | cases h

/-- Reads characters until none is left; `index` counts the bytes in front of `bs`. -/
def decodeFrom (index : Nat) (bs : Bytes) : Except Fault (List Char) :=
  match h : next bs with
  | .done => .ok []
  | .bad n => .error (.invalid n index)
  | .cut => .error (.incomplete index)
  | .char c rest =>
    have := next_shorter h
    (decodeFrom (index + (bs.length - rest.length)) rest).map (c :: ·)
termination_by bs.length

/-- The characters that a byte string spells. -/
def decode (bs : Bytes) : Except Fault (List Char) :=
  decodeFrom 0 bs

/-- The text that a byte string spells. -/
def toString? (bs : Bytes) : Except Fault String :=
  (decode bs).map String.ofList

end Switchboard.Utf8
