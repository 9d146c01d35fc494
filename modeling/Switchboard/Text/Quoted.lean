import Switchboard.Text.Hidden

/-!
# Quoted texts

Texts, characters and byte strings as they appear inside the description of a value: between
quotes, with an escape for the quote itself, for the backslash and for whatever would not be seen.
-/

namespace Switchboard.Text

/-- The lower-case hexadecimal digits of a number. -/
def hex (n : Nat) : String :=
  String.ofList (Nat.toDigits 16 n)

/-- One character of a quoted text; `quote` is the mark around it. -/
def escape (quote c : Char) : String :=
  if c = '\x00' then "\\0"
  else if c = '\t' then "\\t"
  else if c = '\r' then "\\r"
  else if c = '\n' then "\\n"
  else if c = '\\' then "\\\\"
  else if c = quote then String.ofList ['\\', quote]
  else if isHidden c then "\\u\x7b" ++ hex c.toNat ++ "\x7d"
  else String.singleton c

/-- A text in double quotes. -/
def quoted (s : String) : String :=
  "\"" ++ String.join (s.toList.map (escape '"')) ++ "\""

/-- A character in single quotes. -/
def quotedChar (c : Char) : String :=
  "'" ++ escape '\'' c ++ "'"

/-- One byte of a quoted byte string: visible ASCII as it is, all else by an escape. -/
def escapeByte (b : UInt8) : String :=
  let n := b.toNat
  if n = 0x0a then "\\n"
  else if n = 0x0d then "\\r"
  else if n = 0x09 then "\\t"
  else if n = 0x5c then "\\\\"
  else if n = 0x22 then "\\\""
  else if n = 0 then "\\0"
  else if 0x20 ≤ n && n < 0x7f then String.singleton (Char.ofNat n)
  else "\\x" ++ (if n < 16 then "0" else "") ++ hex n

/-- A byte string in double quotes after a `b`. -/
def quotedBytes (bs : List UInt8) : String :=
  "b\"" ++ String.join (bs.map escapeByte) ++ "\""

end Switchboard.Text
