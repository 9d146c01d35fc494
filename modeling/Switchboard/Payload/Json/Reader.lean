import Switchboard.Payload.Json.Skip
import Switchboard.Schema.Shape

/-!
# Reading contents from JSON

One reader per shape, driven by the shape alone. A record may be an object, whose unknown fields
are passed over, or a list of its fields in order. What is wrong with an object or a list as a
whole is reported behind its closing bracket, or where that bracket was looked for in vain.
-/

namespace Switchboard

namespace Json

/-! ## Brackets -/

/-- Where a fault of a whole object is reported that comes to light inside it: behind the closing
brace if that is next. -/
def behindObject (bs : Bytes) : Bytes :=
  match skipBlank bs with
  | 0x7d :: rest => rest
  | bs => bs

/-- The end of an object. -/
def closeObject (bs : Bytes) : Except Fault Bytes :=
  match skipBlank bs with
  | [] => failAt .endInObject []
  | b :: rest =>
    if b = 0x7d then .ok rest
    else if b = 0x2c then failAt .trailingComma (b :: rest)
    else failAt .trailingCharacters (b :: rest)

/-- The end of a list. -/
def closeList (bs : Bytes) : Except Fault Bytes :=
  match skipBlank bs with
  | [] => failAt .endInList []
  | b :: rest =>
    if b = 0x5d then .ok rest
    else if b = 0x2c then
      match skipBlank rest with
      | 0x5d :: rest => failAt .trailingComma (0x5d :: rest)
      | rest => failAt .trailingCharacters rest
    else failAt .trailingCharacters (b :: rest)

/-- Moves to the next item of a list, if there is one. -/
def nextItem? (first : Bool) (bs : Bytes) : Except Fault (Bool × Bytes) :=
  match skipBlank bs with
  | [] => failAt .endInList []
  | b :: rest =>
    if b = 0x5d then .ok (false, b :: rest)
    else if first then .ok (true, b :: rest)
    else if b = 0x2c then
      match skipBlank rest with
      | [] => failAt .endInValue []
      | c :: rest => if c = 0x5d then failAt .trailingComma (c :: rest) else .ok (true, c :: rest)
    else failAt .expectedCommaOrBracket (b :: rest)

/-- Moves behind the opening quote of the next key of an object, if there is one. -/
def nextKey? (first : Bool) (bs : Bytes) : Except Fault (Bool × Bytes) :=
  match skipBlank bs with
  | [] => failAt .endInObject []
  | b :: rest =>
    if b = 0x7d then .ok (false, b :: rest)
    else if first then
      if b = 0x22 then .ok (true, rest) else failAt .keyNotText (b :: rest)
    else if b = 0x2c then
      match skipBlank rest with
      | [] => failAt .endInValue []
      | c :: rest =>
        if c = 0x22 then .ok (true, rest)
        else if c = 0x7d then failAt .trailingComma (c :: rest)
        else failAt .keyNotText (c :: rest)
    else failAt .expectedCommaOrBrace (b :: rest)

/-- The colon behind a key. -/
def readColon (bs : Bytes) : Except Fault Bytes :=
  match skipBlank bs with
  | [] => failAt .endInObject []
  | b :: rest => if b = 0x3a then .ok rest else failAt .expectedColon (b :: rest)

/-- All items of a list, its opening bracket already taken. The list gets shorter with every item,
so as much fuel as there are bytes is enough. -/
def readItems {α : Type} (item : Reader α) : (fuel : Nat) → (first : Bool) → Reader (List α)
  | 0, _, bs => failAt .endInList bs
  | fuel + 1, first, bs => do
    match ← nextItem? first bs with
    | (false, rest) => .ok ([], rest)
    | (true, rest) =>
      let (a, rest) ← item rest
      let (as, rest) ← readItems item fuel false rest
      .ok (a :: as, rest)

/-- All entries of an object, its opening brace already taken, gathered in a state. -/
def readEntries {σ : Type} (entry : String → σ → Reader σ) :
    (fuel : Nat) → (first : Bool) → σ → Reader σ
  | 0, _, _, bs => failAt .endInObject bs
  | fuel + 1, first, s, bs => do
    match ← nextKey? first bs with
    | (false, rest) => .ok (s, rest)
    | (true, rest) =>
      let (key, rest) ← readText rest
      let (s, rest) ← entry key s rest
      readEntries entry fuel false s rest

/-! ## Single values -/

/-- The fault of a value that is not what was expected. Literals, numbers and texts are read to
their end first; brackets are not entered. -/
def unexpected {α : Type} (expected : String) (bs : Bytes) : Except Fault α :=
  match bs with
  | [] => failAt .endInValue []
  | b :: rest =>
    let wrong (found : Found) (rest : Bytes) : Except Fault α :=
      fail (.mismatch (.wrongType found expected)) rest
    match literal? b with
    | some letters => do
      let rest ← readLetters letters rest
      wrong (if b = 0x6e then .null else .boolean (b = 0x74)) rest
    | none =>
      if startsNumber b then do
        let (n, rest) ← readNumber bs
        wrong n.found rest
      else if b = 0x22 then do
        let (s, rest) ← readText rest
        wrong (.text s) rest
      else if b = 0x5b then wrong .sequence bs
      else if b = 0x7b then wrong .map bs
      else failAt .expectedValue bs

def readBool : Reader Bool := fun bs =>
  match skipBlank bs with
  | 0x74 :: rest => do .ok (true, ← readLetters [0x72, 0x75, 0x65] rest)
  | 0x66 :: rest => do .ok (false, ← readLetters [0x61, 0x6c, 0x73, 0x65] rest)
  | bs => unexpected "a boolean" bs

/-- A whole number in the range of its kind. -/
def readInt (k : IntKind) : Reader k.Value := fun bs =>
  match skipBlank bs with
  | [] => failAt .endInValue []
  | b :: rest =>
    if startsNumber b then do
      match ← readNumber (b :: rest) with
      | (.whole n, rest) =>
        match k.ofInt? n with
        | some v => .ok (v, rest)
        | none => fail (.mismatch (.outOfRange n k.name)) rest
      | (n, rest) => fail (.mismatch (.wrongType n.found k.name)) rest
    else unexpected k.name (b :: rest)

/-- A text with its quotes. -/
def readQuoted (expected : String) : Reader String := fun bs =>
  match skipBlank bs with
  | 0x22 :: rest => readText rest
  | bs => unexpected expected bs

/-- A text of one character. -/
def readChar : Reader Char := fun bs => do
  let (s, rest) ← readQuoted "a character" bs
  match s.toList with
  | [c] => .ok (c, rest)
  | _ => fail (.mismatch (.wrongType (.text s) "a character")) rest

def readNull (name : String) : Reader Unit := fun bs =>
  match skipBlank bs with
  | 0x6e :: rest => do .ok ((), ← readLetters [0x75, 0x6c, 0x6c] rest)
  | bs => unexpected ("unit struct " ++ name) bs

/-- `null`, or a value. -/
def readOption {α : Type} (item : Reader α) : Reader (Option α) := fun bs =>
  match skipBlank bs with
  | 0x6e :: rest => do .ok (none, ← readLetters [0x75, 0x6c, 0x6c] rest)
  | bs => do
    let (a, rest) ← item bs
    .ok (some a, rest)

def readList {α : Type} (item : Reader α) : Reader (List α) := fun bs =>
  match skipBlank bs with
  | 0x5b :: rest => do
    let (as, rest) ← readItems item (rest.length + 1) true rest
    .ok (as, ← closeList rest)
  | bs => unexpected "a sequence" bs

/-- A key of a map from its text. -/
def readKey : (k : KeyShape) → (text : String) → (rest : Bytes) → Except Fault k.Key
  | .text, s, _ => .ok s
  | .pair, s, rest => fail (.mismatch (.wrongType (.text s) "a tuple of size 2")) (behindObject rest)

/-- A map; the last entry under a key counts. -/
def readMap {α : Type} (k : KeyShape) (item : Reader α) : Reader (Table k.order α) := fun bs =>
  match skipBlank bs with
  | 0x7b :: rest => do
    let entry (text : String) (t : Table k.order α) : Reader (Table k.order α) := fun rest => do
      let key ← readKey k text rest
      let (a, rest) ← item (← readColon rest)
      .ok (t.insert key a, rest)
    let (t, rest) ← readEntries entry (rest.length + 1) true Table.empty rest
    .ok (t, ← closeObject rest)
  | bs => unexpected "a map" bs

/-- The next item of a list that has to have one; `length` items came before it. -/
def readRequired {α : Type} (item : Reader α) (length : Nat) (expected : String) : Reader α :=
  fun bs => do
    match ← nextItem? (length = 0) bs with
    | (true, rest) => item rest
    | (false, rest) => fail (.mismatch (.wrongLength length expected)) (rest.drop 1)

def readPair {α β : Type} (first : Reader α) (second : Reader β) : Reader (α × β) := fun bs =>
  match skipBlank bs with
  | 0x5b :: rest => do
    let (a, rest) ← readRequired first 0 "a tuple of size 2" rest
    let (b, rest) ← readRequired second 1 "a tuple of size 2" rest
    .ok ((a, b), ← closeList rest)
  | bs => unexpected "a tuple of size 2" bs

/-- The end of an object that stands for one alternative. -/
def closeVariant (bs : Bytes) : Except Fault Bytes :=
  match skipBlank bs with
  | [] => fail .endInObject []
  | 0x7d :: rest => .ok rest
  | bs => fail .expectedValue bs

end Json

/-! ## All values -/

/-- The value of a field that is not there, if it can do without. -/
def Shape.absent? : (s : Shape) → Option s.Val
  | .option _ => some none
  | _ => none

/-- The fields of a record that have been read so far. -/
@[reducible] def Fields.Partial : Fields → Type
  | .nil => Unit
  | .cons _ s rest => Option s.Val × rest.Partial

namespace Fields

/-- No field read yet. -/
def unread : (fs : Fields) → fs.Partial
  | .nil => ()
  | .cons _ _ rest => (none, rest.unread)

/-- All fields, or the name of the first one that is missing. -/
def complete : (fs : Fields) → fs.Partial → Except String fs.Val
  | .nil, _ => .ok ()
  | .cons name s rest, p =>
    match p.1.orElse fun _ => s.absent? with
    | none => .error name
    | some v => (rest.complete p.2).map fun vs => (v, vs)

end Fields

namespace Variants

/-- The names of all alternatives. -/
def names : Variants → List String
  | .nil => []
  | .bare n rest | .single n _ rest | .fields n _ rest => n :: rest.names

end Variants

namespace Json

/-- A record in either form; `what` is its description. -/
def readRecord (what : String) (fs : Fields) (entry : String → fs.Partial → Reader fs.Partial)
    (items : Nat → String → Reader fs.Val) : Reader fs.Val := fun bs =>
  match skipBlank bs with
  | 0x5b :: rest => do
    let (v, rest) ← items 0 (recordLength what fs.length) rest
    .ok (v, ← closeList rest)
  | 0x7b :: rest => do
    let (p, rest) ← readEntries entry (rest.length + 1) true fs.unread rest
    match fs.complete p with
    | .ok v => .ok (v, ← closeObject rest)
    | .error name => fail (.mismatch (.missingField name)) (rest.drop 1)
  | bs => unexpected what bs

/-- One of several alternatives: its name, or an object with its name as the only key. The flag
tells `variant` that contents follow. -/
def readChoice {α : Type} (variant : String → Bool → Reader α) : Reader α := fun bs =>
  match skipBlank bs with
  | [] => failAt .endInValue []
  | b :: rest =>
    if b = 0x22 then do
      let (name, rest) ← readText rest
      variant name false rest
    else if b = 0x7b then do
      let (name, rest) ← readQuoted "variant identifier" rest
      let (v, rest) ← variant name true rest
      .ok (v, ← closeVariant rest)
    else failAt .expectedValue (b :: rest)

/-- The contents of an alternative, if there are any. -/
def readContents {α : Type} (filled : Bool) (expected : String) (item : Reader α) : Reader α :=
  fun bs => do
    if filled then item (← readColon bs)
    else fail (.mismatch (.wrongType .bareVariant expected)) bs

end Json

mutual

/-- Reads a value of a shape. -/
def Shape.readJson : (s : Shape) → Json.Reader s.Val
  | .bool => Json.readBool
  | .int k => Json.readInt k
  | .char => Json.readChar
  | .text => Json.readQuoted "a string"
  | .unit name => Json.readNull name
  | .option s => Json.readOption s.readJson
  | .list s => Json.readList s.readJson
  | .map k s => Json.readMap k s.readJson
  | .pair a b => Json.readPair a.readJson b.readJson
  | .record name fs =>
    Json.readRecord ("struct " ++ name) fs (fun key p => fs.readEntry key p)
      fun length expected => fs.readItems length expected
  | .choice name vs =>
    Json.readChoice fun variant filled =>
      vs.readNamed name variant filled (.unknownVariant variant vs.names)

/-- Reads the entry under a key, its colon included. -/
def Fields.readEntry : (fs : Fields) → String → fs.Partial → Json.Reader fs.Partial
  | .nil, _, p => fun bs => do .ok (p, ← Json.skipValue (← Json.readColon bs))
  | .cons name s rest, key, p => fun bs =>
    if key = name then
      match p.1 with
      | some _ => Json.fail (.mismatch (.duplicateField name)) (Json.behindObject bs)
      | none => do
        let (v, bs) ← s.readJson (← Json.readColon bs)
        .ok ((some v, p.2), bs)
    else do
      let (more, bs) ← rest.readEntry key p.2 bs
      .ok ((p.1, more), bs)

/-- Reads the fields as items of a list; `length` items came before them. -/
def Fields.readItems : (fs : Fields) → (length : Nat) → (expected : String) → Json.Reader fs.Val
  | .nil, _, _ => fun bs => .ok ((), bs)
  | .cons _ s rest, length, expected => fun bs => do
    let (v, bs) ← Json.readRequired s.readJson length expected bs
    let (vs, bs) ← rest.readItems (length + 1) expected bs
    .ok ((v, vs), bs)

/-- Reads the alternative with a name. -/
def Variants.readNamed : (vs : Variants) → (choice name : String) → (filled : Bool) →
    (unknown : Mismatch) → Json.Reader vs.Val
  | .nil, _, _, _, unknown => Json.fail (.mismatch unknown)
  | .bare n rest, choice, name, filled, unknown => fun bs =>
    if name = n then
      if filled then do
        let (_, bs) ← Json.readNull n (← Json.readColon bs)
        .ok (.inl (), bs)
      else .ok (.inl (), bs)
    else do
      let (v, bs) ← rest.readNamed choice name filled unknown bs
      .ok (.inr v, bs)
  | .single n s rest, choice, name, filled, unknown => fun bs =>
    if name = n then do
      let (v, bs) ← Json.readContents filled "newtype variant" s.readJson bs
      .ok (.inl v, bs)
    else do
      let (v, bs) ← rest.readNamed choice name filled unknown bs
      .ok (.inr v, bs)
  | .fields n fs rest, choice, name, filled, unknown => fun bs =>
    if name = n then do
      let record := Json.readRecord ("struct variant " ++ choice ++ "::" ++ n) fs
        (fun key p => fs.readEntry key p) fun length expected => fs.readItems length expected
      let (v, bs) ← Json.readContents filled "struct variant" record bs
      .ok (.inl v, bs)
    else do
      let (v, bs) ← rest.readNamed choice name filled unknown bs
      .ok (.inr v, bs)

end

/-- Reads a text that holds one value and blanks around it. -/
def Shape.ofJson (s : Shape) (bs : Bytes) : Except Json.Error s.Val :=
  let result : Except Json.Fault s.Val := do
    let (v, rest) ← s.readJson bs
    match Json.skipBlank rest with
    | [] => .ok v
    | rest => Json.failAt .trailingCharacters rest
  result.mapError fun f => f.locate bs

end Switchboard
