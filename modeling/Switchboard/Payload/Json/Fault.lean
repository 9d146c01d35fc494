import Switchboard.Bytes
import Switchboard.Schema.Mismatch

/-!
# Faults in JSON text

Why a text is refused, and where. A reader notes how many bytes were still unread; line and column
are computed from the part of the text in front of that point.
-/

namespace Switchboard.Json

/-- Why a text is refused. -/
inductive Cause
  | endInValue
  | endInObject
  | endInList
  | endInText
  | expectedValue
  | keyNotText
  | trailingComma
  | expectedCommaOrBrace
  | expectedCommaOrBracket
  | expectedColon
  | trailingCharacters
  | wrongLiteral
  | invalidNumber
  | numberOutOfRange
  | invalidEscape
  | controlCharacter
  | unfinishedSurrogatePair
  | loneSurrogate
  | invalidText
  | mismatch (m : Mismatch)
  deriving DecidableEq, Repr

/-- Numbers are written out from `0.00001` up to sixteen places in front of the point. -/
def numberStyle : Double.Style :=
  ⟨-5, 15⟩

def Cause.message : Cause → String
  | .endInValue => "EOF while parsing a value"
  | .endInObject => "EOF while parsing an object"
  | .endInList => "EOF while parsing a list"
  | .endInText => "EOF while parsing a string"
  | .expectedValue => "expected value"
  | .keyNotText => "key must be a string"
  | .trailingComma => "trailing comma"
  | .expectedCommaOrBrace => "expected `,` or `\x7d`"
  | .expectedCommaOrBracket => "expected `,` or `]`"
  | .expectedColon => "expected `:`"
  | .trailingCharacters => "trailing characters"
  | .wrongLiteral => "expected ident"
  | .invalidNumber => "invalid number"
  | .numberOutOfRange => "number out of range"
  | .invalidEscape => "invalid escape"
  | .controlCharacter => "control character (\\u0000-\\u001F) found while parsing a string"
  | .unfinishedSurrogatePair => "unexpected end of hex escape"
  | .loneSurrogate => "lone leading surrogate in hex escape"
  | .invalidText => "invalid unicode code point"
  | .mismatch m => m.message (some numberStyle)

/-- A cause, and the number of bytes that were unread at its place. -/
structure Fault where
  cause : Cause
  unread : Nat
  deriving DecidableEq, Repr

/-- Lines end in LF and are counted from 1; columns count bytes since the last LF. -/
structure Position where
  line : Nat
  column : Nat
  deriving DecidableEq, Repr

/-- The position behind a byte string. -/
def Position.after (bs : Bytes) : Position :=
  bs.foldl (fun p b => if b = 0x0a then ⟨p.line + 1, 0⟩ else ⟨p.line, p.column + 1⟩) ⟨1, 0⟩

/-- A cause with its place in a text. -/
structure Error where
  cause : Cause
  position : Position
  deriving DecidableEq, Repr

/-- The place of a fault in the text that was read. -/
def Fault.locate (f : Fault) (input : Bytes) : Error :=
  ⟨f.cause, Position.after (input.take (input.length - f.unread))⟩

def Error.message (e : Error) : String :=
  e.cause.message ++ " at line " ++ toString e.position.line ++ " column "
    ++ toString e.position.column

/-- Takes a value from the front of a text. -/
abbrev Reader (α : Type) : Type :=
  Bytes → Except Fault (α × Bytes)

/-- A fault in front of `rest`. -/
def fail {α : Type} (cause : Cause) (rest : Bytes) : Except Fault α :=
  .error ⟨cause, rest.length⟩

/-- A fault that points at the next byte of `rest`, or at the end if there is none. -/
def failAt {α : Type} (cause : Cause) (rest : Bytes) : Except Fault α :=
  .error ⟨cause, rest.length - 1⟩

/-- Space, tab, LF and CR. -/
def isBlank (b : UInt8) : Bool :=
  b = 0x20 || b = 0x09 || b = 0x0a || b = 0x0d

/-- The text from the first byte on that is not blank. -/
def skipBlank (bs : Bytes) : Bytes :=
  bs.dropWhile isBlank

end Switchboard.Json
