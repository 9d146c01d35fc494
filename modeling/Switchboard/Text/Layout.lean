/-!
# Layout of descriptions

A description is written either in one line, or with one field or item per line, four spaces
deeper than what it belongs to. A list without items stays in one line.
-/

namespace Switchboard.Text

/-- Items with a comma between them. -/
def commas (items : List String) : String :=
  ", ".intercalate items

/-- How a description is laid out; `level` counts what encloses it. -/
structure Layout where
  expanded : Bool
  level : Nat

namespace Layout

/-- Everything in one line. -/
def compact : Layout :=
  ⟨false, 0⟩

/-- One line for each field and item. -/
def expandedTop : Layout :=
  ⟨true, 0⟩

/-- The layout of what is enclosed. -/
def inner (l : Layout) : Layout :=
  { l with level := l.level + 1 }

/-- The spaces at the start of a line. -/
def margin (l : Layout) : String :=
  String.ofList (List.replicate (4 * l.level) ' ')

/-- Lines of their own for what is enclosed, each with a comma. -/
def lines (l : Layout) (items : List String) : String :=
  "\n" ++ String.join (items.map fun i => l.inner.margin ++ i ++ ",\n") ++ l.margin

/-- A name with fields in braces, or the name alone. -/
def record (l : Layout) (name : String) (fields : List (String × (Layout → String))) : String :=
  let items := fields.map fun f => f.1 ++ ": " ++ f.2 l.inner
  if items.isEmpty then name
  else if l.expanded then name ++ " \x7b" ++ l.lines items ++ "\x7d"
  else name ++ " \x7b " ++ commas items ++ " \x7d"

/-- Items in brackets. -/
def list (l : Layout) (items : List (Layout → String)) : String :=
  let items := items.map fun i => i l.inner
  if l.expanded && !items.isEmpty then "[" ++ l.lines items ++ "]"
  else "[" ++ commas items ++ "]"

end Layout

/-- The layout of a text that has no parts. -/
def leaf (s : String) : Layout → String :=
  fun _ => s

end Switchboard.Text
