import Switchboard.Number.Double
import Switchboard.Text.Quoted

/-!
# Mismatches

What a reader of a self-describing format found in the place of something else. Formats differ
only in how they write numbers with a fraction.
-/

namespace Switchboard

/-- A number with a fraction or beyond the whole numbers that a format has. -/
inductive Real
  | finite (negative : Bool) (magnitude : Double)
  | infinite (negative : Bool)
  | notANumber
  deriving DecidableEq, Repr

/-- The text of a number, its decimal in the given style. -/
def Real.text (style : Option Double.Style) : Real → String
  | .finite negative x => x.text style negative
  | .infinite negative => if negative then "-inf" else "inf"
  | .notANumber => "NaN"

/-- What was found. -/
inductive Found
  | null
  | boolean (b : Bool)
  | whole (n : Int)
  | real (x : Real)
  | text (s : String)
  | sequence
  | map
  /-- An alternative without contents, where contents were expected. -/
  | bareVariant
  deriving DecidableEq, Repr

/-- The words for what was found. -/
def Found.describe (style : Option Double.Style) : Found → String
  | .null => "null"
  | .boolean b => "boolean `" ++ (if b then "true" else "false") ++ "`"
  | .whole n => "integer `" ++ toString n ++ "`"
  | .real x => "floating point `" ++ x.text style ++ "`"
  | .text s => "string " ++ Text.quoted s
  | .sequence => "sequence"
  | .map => "map"
  | .bareVariant => "unit variant"

/-- How contents can differ from what a reader expects. -/
inductive Mismatch
  /-- Contents of another kind. -/
  | wrongType (found : Found) (expected : String)
  /-- A number out of range. -/
  | outOfRange (n : Int) (expected : String)
  | missingField (name : String)
  | duplicateField (name : String)
  | wrongLength (length : Nat) (expected : String)
  | unknownVariant (name : String) (known : List String)
  deriving DecidableEq, Repr

namespace Mismatch

/-- The names of the known alternatives in words. -/
def oneOf (known : List String) : String :=
  let ticked := known.map fun n => "`" ++ n ++ "`"
  match ticked with
  | [] => "there are no variants"
  | [a] => "expected " ++ a
  | [a, b] => "expected " ++ a ++ " or " ++ b
  | names => "expected one of " ++ ", ".intercalate names

def message (style : Option Double.Style) : Mismatch → String
  | .wrongType found expected =>
    "invalid type: " ++ found.describe style ++ ", expected " ++ expected
  | .outOfRange n expected =>
    "invalid value: " ++ (Found.whole n).describe style ++ ", expected " ++ expected
  | .missingField name => "missing field `" ++ name ++ "`"
  | .duplicateField name => "duplicate field `" ++ name ++ "`"
  | .wrongLength n expected => "invalid length " ++ toString n ++ ", expected " ++ expected
  | .unknownVariant name known => "unknown variant `" ++ name ++ "`, " ++ oneOf known

end Mismatch

/-- What the list form of a record should have been. -/
def recordLength (what : String) (count : Nat) : String :=
  what ++ " with " ++ toString count ++ if count = 1 then " element" else " elements"

end Switchboard
