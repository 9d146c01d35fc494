import Switchboard.Number.Decimal
import Switchboard.Payload.Json.Text
import Switchboard.Schema.Shape

/-!
# Writing contents as JSON

The compact form: no blanks, fields in the order of their declaration, `null` for a value without
contents. A map can only be written if its keys are texts.
-/

namespace Switchboard

namespace Json

/-- Items with a separator between them. -/
def separated (separator : UInt8) : List Bytes → Bytes
  | [] => []
  | [a] => a
  | a :: b :: rest => a ++ separator :: separated separator (b :: rest)

/-- Items between brackets. -/
def writeList (items : List Bytes) : Bytes :=
  0x5b :: (separated 0x2c items ++ [0x5d])

/-- Entries between braces. -/
def writeObject (entries : List (Bytes × Bytes)) : Bytes :=
  0x7b :: (separated 0x2c (entries.map fun e => e.1 ++ 0x3a :: e.2) ++ [0x7d])

/-- A key of a map, if it is a text. -/
def writeKey? : (k : KeyShape) → k.Key → Option Bytes
  | .text, s => some (writeText s)
  | .pair, _ => none

/-- `null`. -/
def null : Bytes :=
  [0x6e, 0x75, 0x6c, 0x6c]

end Json

mutual

/-- The JSON text of a value; none if it has a key that is not a text. -/
def Shape.toJson? : (s : Shape) → s.Val → Option Bytes
  | .bool, b => some (Bytes.ofAscii (if b then "true" else "false"))
  | .int k, n => some (Decimal.ofInt (k.toInt n))
  | .char, c => some (Json.writeText (String.singleton c))
  | .text, s => some (Json.writeText s)
  | .unit _, _ => some Json.null
  | .option s, v =>
    match v with
    | none => some Json.null
    | some v => s.toJson? v
  | .list s, vs => (vs.mapM s.toJson?).map Json.writeList
  | .map k s, t =>
    (t.entries.mapM fun (e : k.Key × s.Val) => do
      let key ← Json.writeKey? k e.1
      let value ← s.toJson? e.2
      return (key, value)).map Json.writeObject
  | .pair a b, v => do
    let first ← a.toJson? v.1
    let second ← b.toJson? v.2
    return Json.writeList [first, second]
  | .record _ fs, v => (fs.toJson? v).map Json.writeObject
  | .choice _ vs, v => vs.toJson? v

/-- The entries of a record. -/
def Fields.toJson? : (fs : Fields) → fs.Val → Option (List (Bytes × Bytes))
  | .nil, _ => some []
  | .cons name s rest, v => do
    let value ← s.toJson? v.1
    let more ← rest.toJson? v.2
    return (Json.writeText name, value) :: more

/-- A bare alternative is its name; one with contents is an object with its name as the key. -/
def Variants.toJson? : (vs : Variants) → vs.Val → Option Bytes
  | .nil, v => nomatch v
  | .bare name rest, v =>
    match v with
    | .inl _ => some (Json.writeText name)
    | .inr v => rest.toJson? v
  | .single name s rest, v =>
    match v with
    | .inl v => (s.toJson? v).map fun value => Json.writeObject [(Json.writeText name, value)]
    | .inr v => rest.toJson? v
  | .fields name fs rest, v =>
    match v with
    | .inl v => (fs.toJson? v).map fun entries =>
        Json.writeObject [(Json.writeText name, Json.writeObject entries)]
    | .inr v => rest.toJson? v

end

end Switchboard
