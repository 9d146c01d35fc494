import Switchboard.Schema.Shape
import Switchboard.Text.Utf8

/-!
# Binary payloads

Contents without any framing of their own: numbers at their fixed width, lowest byte first; eight
bytes of length in front of a text, a list or a map; one byte in front of an optional value; four
bytes for the alternative of a choice. Fields and pairs follow each other directly. Reading takes
what it needs from the front and leaves the rest alone.
-/

namespace Switchboard

namespace Binary

/-- The bytes of a length. -/
def lengthBytes (n : Nat) : Bytes :=
  Bytes.ofNat 8 n

/-- A text: its length in bytes, then the bytes. -/
def textBytes (s : String) : Bytes :=
  let bs := Utf8.ofString s
  lengthBytes bs.length ++ bs

/-- A key of a map. -/
def keyBytes : (k : KeyShape) → k.Key → Bytes
  | .text, s => textBytes s
  | .pair, p => Bytes.ofNat 1 p.1.toNat ++ Bytes.ofNat 1 p.2.toNat

end Binary

mutual

/-- The bytes of a value. -/
def Shape.toBinary : (s : Shape) → s.Val → Bytes
  | .bool, b => [if b then 1 else 0]
  | .int k, n => Bytes.ofNat k.width.bytes n.toNat
  | .char, c => Utf8.encodeChar c
  | .text, t => Binary.textBytes t
  | .unit _, _ => []
  | .option s, v =>
    match v with
    | none => [0]
    | some v => 1 :: s.toBinary v
  | .list s, vs => Binary.lengthBytes vs.length ++ vs.flatMap s.toBinary
  | .map k s, t =>
    Binary.lengthBytes t.entries.length ++
      t.entries.flatMap fun e => Binary.keyBytes k e.1 ++ s.toBinary e.2
  | .pair a b, v => a.toBinary v.1 ++ b.toBinary v.2
  | .record _ fs, v => fs.toBinary v
  | .choice _ vs, v => vs.toBinary 0 v

/-- The bytes of all fields, one after the other. -/
def Fields.toBinary : (fs : Fields) → fs.Val → Bytes
  | .nil, _ => []
  | .cons _ s rest, v => s.toBinary v.1 ++ rest.toBinary v.2

/-- The number of the alternative, counted from `index`, and its contents. -/
def Variants.toBinary : (vs : Variants) → (index : Nat) → vs.Val → Bytes
  | .nil, _, v => nomatch v
  | .bare _ rest, i, v =>
    match v with
    | .inl _ => Bytes.ofNat 4 i
    | .inr v => rest.toBinary (i + 1) v
  | .single _ s rest, i, v =>
    match v with
    | .inl v => Bytes.ofNat 4 i ++ s.toBinary v
    | .inr v => rest.toBinary (i + 1) v
  | .fields _ fs rest, i, v =>
    match v with
    | .inl v => Bytes.ofNat 4 i ++ fs.toBinary v
    | .inr v => rest.toBinary (i + 1) v

end

namespace Binary

/-- Why bytes are no binary payload. -/
inductive Fault
  /-- A number, a length, a flag or an alternative is cut off. -/
  | endOfInput
  /-- Fewer bytes than a text announces. -/
  | shortText
  | badText (fault : Utf8.Fault)
  | badBool (found : Nat)
  | badOption (found : Nat)
  | badChar
  | badVariant (found count : Nat)
  deriving DecidableEq, Repr

def Fault.message : Fault → String
  | .endOfInput => "io error: unexpected end of file"
  | .shortText => "io error: "
  | .badText f => "string is not valid utf8: " ++ f.message
  | .badBool b => s!"invalid u8 while decoding bool, expected 0 or 1, found {b}"
  | .badOption b => s!"tag for enum is not valid, found {b}"
  | .badChar => "char is not valid"
  | .badVariant n count =>
    "invalid value: integer `" ++ toString n ++ "`, expected variant index 0 <= i < "
      ++ toString count

/-- Takes a value from the front of a byte string. -/
abbrev Reader (α : Type) : Type :=
  Bytes → Except Fault (α × Bytes)

/-- A number on `w` bytes. -/
def readNat (w : Nat) : Reader Nat := fun bs =>
  match Bytes.split? w bs with
  | some (number, rest) => .ok (number.toNat, rest)
  | none => .error .endOfInput

def readBool : Reader Bool := fun bs => do
  let (n, rest) ← readNat 1 bs
  match n with
  | 0 => .ok (false, rest)
  | 1 => .ok (true, rest)
  | n => .error (.badBool n)

def readChar : Reader Char := fun bs =>
  match Utf8.next bs with
  | .char c rest => .ok (c, rest)
  | .done => .error .endOfInput
  | _ => .error .badChar

def readText : Reader String := fun bs => do
  let (n, rest) ← readNat 8 bs
  match Bytes.split? n rest with
  | none => .error .shortText
  | some (text, rest) =>
    match Utf8.toString? text with
    | .ok s => .ok (s, rest)
    | .error f => .error (.badText f)

/-- A flag byte, then the value if the flag is set. -/
def readOption {α : Type} (item : Reader α) : Reader (Option α) := fun bs => do
  let (n, rest) ← readNat 1 bs
  match n with
  | 0 => .ok (none, rest)
  | 1 =>
    let (a, rest) ← item rest
    .ok (some a, rest)
  | n => .error (.badOption n)

/-- A given number of items. -/
def readMany {α : Type} (item : Reader α) : Nat → Reader (List α)
  | 0, bs => .ok ([], bs)
  | n + 1, bs => do
    let (a, rest) ← item bs
    let (as, rest) ← readMany item n rest
    .ok (a :: as, rest)

/-- One item after the other. -/
def readBoth {α β : Type} (first : Reader α) (second : Reader β) : Reader (α × β) := fun bs => do
  let (a, rest) ← first bs
  let (b, rest) ← second rest
  .ok ((a, b), rest)

def readByte : Reader (BitVec 8) := fun bs => do
  let (n, rest) ← readNat 1 bs
  .ok (BitVec.ofNat 8 n, rest)

def readKey : (k : KeyShape) → Reader k.Key
  | .text => readText
  | .pair => readBoth readByte readByte

/-- The table of some entries; the last entry under a key counts. -/
def tableOf {K V : Type} {cmp : K → K → Ordering} [Std.TransCmp cmp] (es : List (K × V)) :
    Table cmp V :=
  es.foldl (fun t e => t.insert e.1 e.2) Table.empty

end Binary

mutual

/-- Reads a value of a shape. -/
def Shape.readBinary : (s : Shape) → Binary.Reader s.Val
  | .bool => Binary.readBool
  | .int k => fun bs => do
    let (n, rest) ← Binary.readNat k.width.bytes bs
    .ok (BitVec.ofNat k.width.bits n, rest)
  | .char => Binary.readChar
  | .text => Binary.readText
  | .unit _ => fun bs => .ok ((), bs)
  | .option s => Binary.readOption s.readBinary
  | .list s => fun bs => do
    let (n, rest) ← Binary.readNat 8 bs
    Binary.readMany s.readBinary n rest
  | .map k s => fun bs => do
    let (n, rest) ← Binary.readNat 8 bs
    let (es, rest) ← Binary.readMany (Binary.readBoth (Binary.readKey k) s.readBinary) n rest
    .ok (Binary.tableOf es, rest)
  | .pair a b => Binary.readBoth a.readBinary b.readBinary
  | .record _ fs => fs.readBinary
  | .choice _ vs => fun bs => do
    let (n, rest) ← Binary.readNat 4 bs
    vs.readBinary n (.badVariant n vs.length) rest

/-- Reads all fields in order. -/
def Fields.readBinary : (fs : Fields) → Binary.Reader fs.Val
  | .nil => fun bs => .ok ((), bs)
  | .cons _ s rest => Binary.readBoth s.readBinary rest.readBinary

/-- Reads the contents of alternative `index`; `fault` is the answer if there is none. -/
def Variants.readBinary : (vs : Variants) → (index : Nat) → (fault : Binary.Fault) →
    Binary.Reader vs.Val
  | .nil, _, fault => fun _ => .error fault
  | .bare _ rest, index, fault => fun bs =>
    match index with
    | 0 => .ok (.inl (), bs)
    | i + 1 => do
      let (v, bs) ← rest.readBinary i fault bs
      .ok (.inr v, bs)
  | .single _ s rest, index, fault => fun bs =>
    match index with
    | 0 => do
      let (v, bs) ← s.readBinary bs
      .ok (.inl v, bs)
    | i + 1 => do
      let (v, bs) ← rest.readBinary i fault bs
      .ok (.inr v, bs)
  | .fields _ fs rest, index, fault => fun bs =>
    match index with
    | 0 => do
      let (v, bs) ← fs.readBinary bs
      .ok (.inl v, bs)
    | i + 1 => do
      let (v, bs) ← rest.readBinary i fault bs
      .ok (.inr v, bs)

end

end Switchboard
