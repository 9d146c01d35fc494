import Switchboard.Schema.Shape
import Switchboard.Text.Layout
import Switchboard.Text.Quoted

/-!
# Describing values

The text that shows a value to a programmer: names of types and fields are spelled out, texts are
quoted.
-/

namespace Switchboard

namespace Describe

/-- A name with fields in braces, or the name alone. -/
def record (name : String) (fields : List (String × String)) : String :=
  Text.Layout.compact.record name (fields.map fun f => (f.1, Text.leaf f.2))

/-- A key of a map. -/
def key : (k : KeyShape) → k.Key → String
  | .text, s => Text.quoted s
  | .pair, p => "(" ++ toString p.1.toNat ++ ", " ++ toString p.2.toNat ++ ")"

end Describe

mutual

/-- The description of a value. -/
def Shape.describe : (s : Shape) → s.Val → String
  | .bool, b => if b then "true" else "false"
  | .int k, n => toString (k.toInt n)
  | .char, c => Text.quotedChar c
  | .text, s => Text.quoted s
  | .unit name, _ => name
  | .option s, v =>
    match v with
    | none => "None"
    | some v => "Some(" ++ s.describe v ++ ")"
  | .list s, vs => "[" ++ Text.commas (vs.map s.describe) ++ "]"
  | .map k s, t =>
    "\x7b" ++ Text.commas (t.entries.map fun e => Describe.key k e.1 ++ ": " ++ s.describe e.2)
      ++ "\x7d"
  | .pair a b, v => "(" ++ a.describe v.1 ++ ", " ++ b.describe v.2 ++ ")"
  | .record name fs, v => Describe.record name (fs.describe v)
  | .choice _ vs, v => vs.describe v

/-- The names of the fields with the descriptions of their values. -/
def Fields.describe : (fs : Fields) → fs.Val → List (String × String)
  | .nil, _ => []
  | .cons name s rest, v => (name, s.describe v.1) :: rest.describe v.2

/-- The description of an alternative, without the name of the choice. -/
def Variants.describe : (vs : Variants) → vs.Val → String
  | .nil, v => nomatch v
  | .bare name rest, v =>
    match v with
    | .inl _ => name
    | .inr v => rest.describe v
  | .single name s rest, v =>
    match v with
    | .inl v => name ++ "(" ++ s.describe v ++ ")"
    | .inr v => rest.describe v
  | .fields name fs rest, v =>
    match v with
    | .inl v => Describe.record name (fs.describe v)
    | .inr v => rest.describe v

end

end Switchboard
