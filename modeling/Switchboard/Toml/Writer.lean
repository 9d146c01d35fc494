import Switchboard.Number.Decimal

/-!
# Writing a document

Settings are written one to a line, in sections with an empty line between them. A text is written
in the first form that needs no escape, with as few quotes as possible; only a text that needs an
escape in every form gets one.
-/

namespace Switchboard.Toml

/-- A value that fits on a line of its own. -/
inductive Setting
  | text (s : String)
  | whole (n : Nat)
  | boolean (b : Bool)
  deriving DecidableEq, Repr

/-- Settings under a header. -/
structure Section where
  name : String
  settings : List (String × Setting)
  deriving DecidableEq, Repr

/-! ## Texts -/

/-- Whether a character cannot stand in a text without an escape, whatever its form. -/
def needsEscape (c : Char) : Bool :=
  (c.toNat < 0x20 && c ≠ '\t' && c ≠ '\n') || c = '\x7f'

/-- The most occurrences of a character next to each other, of which `run` stand just before. -/
def longestRun (q : Char) : (run : Nat) → List Char → Nat
  | run, [] => run
  | run, c :: rest => if c = q then longestRun q (run + 1) rest else max run (longestRun q 0 rest)

/-- The quotes around a text and whether it spans lines. -/
inductive TextForm
  | basic
  | literal
  | multiBasic
  | multiLiteral
  deriving DecidableEq, Repr

/-- The form in which a text is written. -/
def TextForm.of (s : List Char) : TextForm :=
  let raw := !s.any needsEscape
  let plain := raw && !s.contains '\\'
  let oneLine := !s.contains '\n'
  if plain && oneLine && !s.contains '"' then .basic
  else if raw && oneLine && !s.contains '\'' then .literal
  else if plain && longestRun '"' 0 s ≤ 2 then .multiBasic
  else if raw && longestRun '\'' 0 s ≤ 2 then .multiLiteral
  else if oneLine then .basic
  else .multiBasic

/-- The upper-case hexadecimal digit for a number below 16. -/
def hexDigit (n : Nat) : Char :=
  Char.ofNat (if n < 10 then 0x30 + n else 0x37 + n)

/-- A character other than a quote between double quotes. -/
def escaped (c : Char) : List Char :=
  if c = '\x08' then ['\\', 'b']
  else if c = '\t' then ['\\', 't']
  else if c = '\x0c' then ['\\', 'f']
  else if c = '\r' then ['\\', 'r']
  else if c = '\\' then ['\\', '\\']
  else if needsEscape c then ['\\', 'u', '0', '0', hexDigit (c.toNat / 16), hexDigit (c.toNat % 16)]
  else [c]

/-- The inside of a text on one line. -/
def basicBody (s : List Char) : List Char :=
  s.flatMap fun c => if c = '"' then ['\\', '"'] else escaped c

/-- The inside of a text of several lines after `quotes` plain quotes: every third quote in a row
gets an escape. -/
def multiBody : (quotes : Nat) → List Char → List Char
  | _, [] => []
  | quotes, c :: rest =>
    if c = '"' then
      if 2 ≤ quotes then '\\' :: '"' :: multiBody 0 rest else '"' :: multiBody (quotes + 1) rest
    else escaped c ++ multiBody 0 rest

/-- A line end in front of a text of several lines, which does not belong to it. -/
def opening (s : List Char) : List Char :=
  if s.contains '\n' then ['\n'] else []

/-- The written form of a text. -/
def writeText (s : List Char) : List Char :=
  match TextForm.of s with
  | .basic => '"' :: basicBody s ++ ['"']
  | .literal => '\'' :: s ++ ['\'']
  | .multiBasic => ['"', '"', '"'] ++ opening s ++ multiBody 0 s ++ ['"', '"', '"']
  | .multiLiteral => ['\'', '\'', '\''] ++ opening s ++ s ++ ['\'', '\'', '\'']

/-! ## Documents -/

/-- The digits of a number. -/
def writeNat (n : Nat) : List Char :=
  (Decimal.ofNat n).map fun b => Char.ofNat b.toNat

def Setting.write : Setting → List Char
  | .text s => writeText s.toList
  | .whole n => writeNat n
  | .boolean b => if b then "true".toList else "false".toList

/-- The line of a setting. -/
def writeSetting (key : String) (v : Setting) : List Char :=
  key.toList ++ [' ', '=', ' '] ++ v.write ++ ['\n']

def Section.write (s : Section) : List Char :=
  '[' :: s.name.toList ++ [']', '\n'] ++ s.settings.flatMap fun e => writeSetting e.1 e.2

/-- Sections with an empty line between them. -/
def writeSections : List Section → List Char
  | [] => []
  | [s] => s.write
  | s :: rest => s.write ++ '\n' :: writeSections rest

/-- The text of a document. -/
def write (sections : List Section) : String :=
  String.ofList (writeSections sections)

end Switchboard.Toml
