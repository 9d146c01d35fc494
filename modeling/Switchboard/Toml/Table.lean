import Switchboard.Toml.Value

/-!
# Tables under construction

A table is filled from pairs of a key and a value, where a key may lead through other tables, and
from sections that open with a header. Which additions are allowed depends on how a table came
about: a header may name a table once, and keys with dots may not reach into a table that a header
named.
-/

namespace Switchboard.Toml

/-- A key with the keys of the tables that it leads through. -/
structure KeyPath where
  tables : List String
  key : String
  deriving DecidableEq, Repr

/-- The keys of a path, outermost first. -/
def KeyPath.toList (p : KeyPath) : List String :=
  p.tables ++ [p.key]

/-- How a table came about. -/
inductive Origin
  /-- A header names it, or it is the outermost table. -/
  | named
  /-- A header leads through it. -/
  | passed
  /-- A key with dots leads through it. -/
  | dotted
  deriving DecidableEq, Repr

/-- What a key stands for in a table under construction. -/
inductive Node
  | value (v : Value)
  | table (origin : Origin) (entries : List (String × Node))
  /-- The tables of an array that headers add to, oldest first. -/
  | tables (entries : List (List (String × Node)))

/-- The contents of a table under construction. -/
abbrev Entries : Type :=
  List (String × Node)

namespace Entries

/-- Puts something else in the place of what a key stands for. -/
def replace (es : Entries) (key : String) (n : Node) : Entries :=
  es.map fun e => if e.1 = key then (key, n) else e

/-- Removes a key. -/
def without (es : Entries) (key : String) : Entries :=
  es.filter fun e => e.1 ≠ key

/-- Changes the table at the end of a path, making the tables on the way that do not exist; of an
array of tables the last one is meant. Keys with dots cannot pass through a named table. -/
def changeAt (dots : Bool) (change : Origin → Entries → Option Entries) :
    (path : List String) → Origin → Entries → Option Entries
  | [], origin, es => change origin es
  | key :: path, _, es =>
    match es.lookup key with
    | none => do
      let origin := if dots then Origin.dotted else .passed
      return es ++ [(key, .table origin (← changeAt dots change path origin []))]
    | some (.value _) => none
    | some (.table origin inner) =>
      if dots && origin = .named then none
      else do return es.replace key (.table origin (← changeAt dots change path origin inner))
    | some (.tables ts) =>
      match ts.getLast? with
      | none => none
      | some last => do
        return es.replace key (.tables (ts.dropLast ++ [← changeAt dots change path .named last]))

/-- Adds a value under a key that is new. -/
def put (es : Entries) (path : KeyPath) (v : Value) : Option Entries :=
  let add (origin : Origin) (es : Entries) : Option Entries :=
    if path.tables ≠ [] ∧ origin ≠ .dotted then none
    else if (es.lookup path.key).isSome then none
    else some (es ++ [(path.key, .value v)])
  changeAt true add path.tables .named es

/-- Adds several values. -/
def putAll (es : Entries) (pairs : List (KeyPath × Value)) : Option Entries :=
  pairs.foldlM (fun es p => es.put p.1 p.2) es

end Entries

mutual

/-- The finished value of what a key stands for. -/
def Node.toValue : Node → Value
  | .value v => v
  | .table _ es => .table (entriesToValues es)
  | .tables ts => .list (tablesToValues ts)

def entriesToValues : List (String × Node) → List (String × Value)
  | [] => []
  | (key, n) :: es => (key, n.toValue) :: entriesToValues es

def tablesToValues : List (List (String × Node)) → List Value
  | [] => []
  | es :: ts => .table (entriesToValues es) :: tablesToValues ts

end

/-- The values of a finished table. -/
def Entries.toValues (es : Entries) : List (String × Value) :=
  entriesToValues es

/-! ## Sections -/

/-- What a header opens. -/
inductive Header
  | table (path : KeyPath)
  /-- A further table of an array. -/
  | element (path : KeyPath)
  deriving DecidableEq, Repr

/-- Adds what stands under a header. A table that headers only led through so far can still be
named; it then moves behind its neighbours. -/
def Entries.addSection (root : Entries) (header : Header) (pairs : List (KeyPath × Value)) :
    Option Entries :=
  match header with
  | .table path =>
    let add (_ : Origin) (es : Entries) : Option Entries :=
      match es.lookup path.key with
      | none => do return es ++ [(path.key, .table .named (← Entries.putAll [] pairs))]
      | some (.table .passed inner) => do
        return es.without path.key ++ [(path.key, .table .named (← Entries.putAll inner pairs))]
      | some _ => none
    root.changeAt false add path.tables .named
  | .element path =>
    let add (_ : Origin) (es : Entries) : Option Entries :=
      match es.lookup path.key with
      | none => do return es ++ [(path.key, .tables [← Entries.putAll [] pairs])]
      | some (.tables ts) => do
        return es.replace path.key (.tables (ts ++ [← Entries.putAll [] pairs]))
      | some _ => none
    root.changeAt false add path.tables .named

end Switchboard.Toml
