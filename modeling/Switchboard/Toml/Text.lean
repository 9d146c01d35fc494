import Switchboard.Toml.Character

/-!
# Texts in a document

A text stands between double quotes, where a backslash begins an escape, or between single quotes,
where every character stands for itself. Between three quotes it can span lines. Readers return
the text and what follows it.
-/

namespace Switchboard.Toml

/-- Puts a character in front of the text that a reader returns. -/
def push (c : Char) (read : Option (List Char × List Char)) : Option (List Char × List Char) :=
  read.map fun r => (c :: r.1, r.2)

/-- The value of a hexadecimal digit. -/
def digitValue? (c : Char) : Option Nat :=
  if '0' ≤ c ∧ c ≤ '9' then some (c.toNat - 48)
  else if 'a' ≤ c ∧ c ≤ 'f' then some (c.toNat - 87)
  else if 'A' ≤ c ∧ c ≤ 'F' then some (c.toNat - 55)
  else none

/-- The number that hexadecimal digits denote. -/
def hexNumber? (digits : List Char) : Option Nat :=
  digits.foldlM (fun n c => (digitValue? c).map (16 * n + ·)) 0

/-- Reads the character whose number the next digits give. -/
def codePoint? (count : Nat) (cs : List Char) : Option (Char × List Char) :=
  match hexNumber? (cs.take count) with
  | none => none
  | some n => if count ≤ cs.length ∧ n.isValidChar then some (Char.ofNat n, cs.drop count) else none

theorem length_le_of_codePoint {count : Nat} {cs rest : List Char} {c : Char}
    (h : codePoint? count cs = some (c, rest)) : rest.length ≤ cs.length := by
  unfold codePoint? at h
  split at h
  · cases h
  · split at h <;> cases h
    simp

/-- Reads what follows a backslash. -/
def escape? : List Char → Option (Char × List Char)
  | [] => none
  | c :: rest =>
    match c with
    | 'b' => some ('\x08', rest)
    | 't' => some ('\t', rest)
    | 'n' => some ('\n', rest)
    | 'f' => some ('\x0c', rest)
    | 'r' => some ('\r', rest)
    | '"' => some ('"', rest)
    | '\\' => some ('\\', rest)
    | 'u' => codePoint? 4 rest
    | 'U' => codePoint? 8 rest
    | _ => none

theorem length_lt_of_escape {cs rest : List Char} {c : Char} (h : escape? cs = some (c, rest)) :
    rest.length < cs.length := by
  unfold escape? at h
  split at h
  · cases h
  · split at h
    all_goals first
      | exact Nat.lt_succ_of_le (length_le_of_codePoint h)
      | cases h
    all_goals exact Nat.lt_succ_self _

/-- What follows a backslash at the end of a line and the blank lines and blanks after it. -/
def continuation? (cs : List Char) : Option (List Char) :=
  (newline? (skipBlanks cs)).map skipLines

theorem length_lt_of_continuation {cs rest : List Char} (h : continuation? cs = some rest) :
    rest.length < cs.length := by
  obtain ⟨after, hn, rfl⟩ := Option.map_eq_some_iff.1 h
  have h₁ := length_lt_of_newline hn
  have h₂ := length_skipBlanks_le cs
  have h₃ := length_skipLines_le after
  omega

/-- The rest of a text in double quotes. -/
def basic (cs : List Char) : Option (List Char × List Char) :=
  match cs with
  | [] => none
  | c :: rest =>
    if c = '"' then some ([], rest)
    else if c = '\\' then
      match h : escape? rest with
      | none => none
      | some (e, after) =>
        have := length_lt_of_escape h
        push e (basic after)
    else if isPlain c then push c (basic rest)
    else none
termination_by cs.length
decreasing_by all_goals (simp only [List.length_cons] at *; omega)

/-- The rest of a text in single quotes. -/
def literal : List Char → Option (List Char × List Char)
  | [] => none
  | c :: rest =>
    if c = '\'' then some ([], rest)
    else if isPlain c then push c (literal rest)
    else none

/-- What is left of a text of several lines after a first quote, if two more end it. Up to two
quotes in front of the last three belong to the text. -/
def closing? (quote : Char) (cs : List Char) : Option (List Char × List Char) :=
  if cs.take 2 = [quote, quote] then
    let more := min 2 ((cs.drop 2).takeWhile (· = quote)).length
    some (List.replicate more quote, cs.drop (2 + more))
  else none

/-- The rest of a text in three double quotes. -/
def multiBasic (cs : List Char) : Option (List Char × List Char) :=
  match cs with
  | [] => none
  | c :: rest =>
    if c = '"' then
      match closing? '"' rest with
      | some result => some result
      | none => push c (multiBasic rest)
    else if c = '\\' then
      match hc : continuation? rest with
      | some after =>
        have := length_lt_of_continuation hc
        multiBasic after
      | none =>
        match h : escape? rest with
        | none => none
        | some (e, after) =>
          have := length_lt_of_escape h
          push e (multiBasic after)
    else if isPlain c then push c (multiBasic rest)
    else
      match h : newline? (c :: rest) with
      | none => none
      | some after =>
        have := length_lt_of_newline h
        push '\n' (multiBasic after)
termination_by cs.length
decreasing_by all_goals (simp only [List.length_cons] at *; omega)

/-- The rest of a text in three single quotes. -/
def multiLiteral (cs : List Char) : Option (List Char × List Char) :=
  match cs with
  | [] => none
  | c :: rest =>
    if c = '\'' then
      match closing? '\'' rest with
      | some result => some result
      | none => push c (multiLiteral rest)
    else if isPlain c then push c (multiLiteral rest)
    else
      match h : newline? (c :: rest) with
      | none => none
      | some after =>
        have := length_lt_of_newline h
        push '\n' (multiLiteral after)
termination_by cs.length
decreasing_by all_goals (simp only [List.length_cons] at *; omega)

/-- Reads a text on one line. -/
def line? : List Char → Option (List Char × List Char)
  | '"' :: rest => basic rest
  | '\'' :: rest => literal rest
  | _ => none

/-- Reads a text. A line end right after three quotes does not belong to it. -/
def text? (cs : List Char) : Option (List Char × List Char) :=
  if cs.take 3 = ['"', '"', '"'] then multiBasic (skipNewline (cs.drop 3))
  else if cs.take 3 = ['\'', '\'', '\''] then multiLiteral (skipNewline (cs.drop 3))
  else line? cs

end Switchboard.Toml
