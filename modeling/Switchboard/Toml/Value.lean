import Switchboard.Schema.Mismatch

/-!
# Values of a document

What a settings document can hold.
-/

namespace Switchboard.Toml

/-- A value. -/
inductive Value
  | text (s : String)
  | whole (n : Int)
  | real (x : Real)
  | boolean (b : Bool)
  /-- A date, a time of day or both, as written. -/
  | moment (s : String)
  | list (values : List Value)
  /-- Keys are distinct; they keep the order in which they were given. -/
  | table (entries : List (String × Value))

namespace Value

/-- The value in the words of a mismatch. A moment counts as a table of its parts. -/
def found : Value → Found
  | .text s => .text s
  | .whole n => .whole n
  | .real x => .real x
  | .boolean b => .boolean b
  | .moment _ => .map
  | .list _ => .sequence
  | .table _ => .map

end Value

end Switchboard.Toml
