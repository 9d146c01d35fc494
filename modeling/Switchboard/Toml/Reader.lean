import Switchboard.Toml.Scalar
import Switchboard.Toml.Table

/-!
# Reading a document

A document is a sequence of lines: pairs of a key and a value, and headers that open a section.
Lists and texts may span several lines of the file. There is one kind of failure: the text is no
document.
-/

namespace Switchboard.Toml

/-! ## Keys -/

/-- Reads one key: bare or a text on one line. -/
def key? (cs : List Char) : Option (String × List Char) :=
  match line? cs with
  | some (s, rest) => some (String.ofList s, rest)
  | none =>
    let (bare, rest) := cs.span isBare
    if bare.isEmpty then none else some (String.ofList bare, rest)

/-- The number of keys that a path may not reach. -/
def pathLimit : Nat :=
  80

/-- Reads keys with dots between them; blanks may stand around each. -/
def keys? (cs : List Char) : Option (List String × List Char) :=
  match key? (skipBlanks cs) with
  | none => none
  | some (k, rest) =>
    match skipBlanks rest with
    | '.' :: after =>
      if after.length < cs.length then (keys? after).map fun r => (k :: r.1, r.2) else none
    | rest => some ([k], rest)
termination_by cs.length

/-- Reads a path. -/
def path? (cs : List Char) : Option (KeyPath × List Char) :=
  match keys? cs with
  | none => none
  | some (ks, rest) =>
    match ks.getLast? with
    | none => none
    | some k => if ks.length < pathLimit then some (⟨ks.dropLast, k⟩, rest) else none

/-! ## Values -/

/-- Reads the rest of a list, given how to read an element. -/
def elements (element : List Char → Option (Value × List Char)) (cs : List Char) :
    Option (List Value × List Char) :=
  match skipSpace false cs with
  | ']' :: rest => some ([], rest)
  | first =>
    match element first with
    | none => none
    | some (v, rest) =>
      match skipSpace false rest with
      | ']' :: after => some ([v], after)
      | ',' :: after =>
        if after.length < cs.length then (elements element after).map fun r => (v :: r.1, r.2)
        else none
      | _ => none
termination_by cs.length

/-- Reads a pair of a key and a value, given how to read a value. -/
def pair? (value : List Char → Option (Value × List Char)) (cs : List Char) :
    Option ((KeyPath × Value) × List Char) := do
  let (path, rest) ← path? cs
  match rest with
  | '=' :: after =>
    let (v, rest) ← value (skipBlanks after)
    return ((path, v), rest)
  | _ => none

/-- Reads the rest of a table on one line, at least one pair. -/
def pairs (value : List Char → Option (Value × List Char)) (cs : List Char) :
    Option (List (KeyPath × Value) × List Char) :=
  match pair? value cs with
  | none => none
  | some (p, rest) =>
    match skipBlanks rest with
    | '}' :: after => some ([p], after)
    | ',' :: after =>
      if after.length < cs.length then (pairs value after).map fun r => (p :: r.1, r.2) else none
    | _ => none
termination_by cs.length

/-- Reads a table on one line, after its opening brace. -/
def inlineTable (value : List Char → Option (Value × List Char)) (cs : List Char) :
    Option (Value × List Char) :=
  match skipBlanks cs with
  | '}' :: rest => some (.table [], rest)
  | cs => do
    let (ps, rest) ← pairs value cs
    let es ← Entries.putAll [] ps
    return (.table es.toValues, rest)

/-- Reads a value in which lists and tables are nested at most to the given depth. -/
def value? : (depth : Nat) → List Char → Option (Value × List Char)
  | _, [] => none
  | depth, c :: rest =>
    if c = '"' ∨ c = '\'' then
      (text? (c :: rest)).map fun r => (.text (String.ofList r.1), r.2)
    else if c = '[' then
      match depth with
      | 0 => none
      | depth + 1 => (elements (value? depth) rest).map fun r => (.list r.1, r.2)
    else if c = '{' then
      match depth with
      | 0 => none
      | depth + 1 => inlineTable (value? depth) rest
    else readScalar (c :: rest)

/-- The depth to which lists and tables can be nested. -/
def nestingLimit : Nat :=
  79

/-! ## Lines -/

/-- A line that says something. -/
inductive Line
  | header (h : Header)
  | pair (path : KeyPath) (v : Value)

/-- Reads the rest of a header, given what closes it. -/
def header? (closing : List Char) (cs : List Char) : Option (KeyPath × List Char) := do
  let (path, rest) ← path? cs
  if rest.take closing.length = closing then
    return (path, ← lineEnd? (rest.drop closing.length))
  else none

/-- Reads a line. A line without anything but blanks and a comment says nothing. -/
def readLine (cs : List Char) : Option (Option Line × List Char) :=
  match lineEnd? cs with
  | some rest => some (none, rest)
  | none =>
    match skipBlanks cs with
    | '[' :: '[' :: rest =>
      (header? [']', ']'] rest).map fun r => (some (.header (.element r.1)), r.2)
    | '[' :: rest => (header? [']'] rest).map fun r => (some (.header (.table r.1)), r.2)
    | cs => do
      let ((path, v), rest) ← pair? (value? nestingLimit) cs
      return (some (.pair path v), ← lineEnd? rest)

/-- Reads lines up to the end. -/
def readLines (cs : List Char) : Option (List Line) :=
  if cs = [] then some []
  else
    match readLine cs with
    | none => none
    | some (line, rest) =>
      if rest.length < cs.length then (readLines rest).map (line.toList ++ ·) else none
termination_by cs.length

/-! ## Documents -/

/-- The pairs in front of the first header, and the sections after it. -/
def sections : List Line → List (KeyPath × Value) × List (Header × List (KeyPath × Value))
  | [] => ([], [])
  | .pair path v :: lines => ((path, v) :: (sections lines).1, (sections lines).2)
  | .header h :: lines => ([], (h, (sections lines).1) :: (sections lines).2)

/-- The table that lines describe. -/
def ofLines? (lines : List Line) : Option Entries := do
  let (first, rest) := sections lines
  rest.foldlM (fun root s => root.addSection s.1 s.2) (← Entries.putAll [] first)

/-- Reads a document. A byte order mark in front of it is ignored. -/
def read? (s : String) : Option (List (String × Value)) := do
  let cs := match s.toList with
    | '\ufeff' :: rest => rest
    | cs => cs
  return (← ofLines? (← readLines cs)).toValues

end Switchboard.Toml
