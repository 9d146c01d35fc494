import Switchboard.Config.Basic
import Switchboard.Toml.Reader

/-!
# Settings from a document

Each section is a table whose keys are settings, or a list of the settings in order. Keys that are
no settings are ignored. Settings are read in the order in which the document gives them, and the
first one that does not fit is reported.
-/

namespace Switchboard

open Toml (Value)

/-- Why a document does not give settings. -/
inductive SettingError
  | mismatch (m : Mismatch)
  /-- A choice between names is neither a text nor a table. -/
  | notAChoice
  /-- A table that should give one name gives another number of them. -/
  | choiceCount (n : Nat)
  /-- The name in a table comes with something. -/
  | choiceContents
  deriving DecidableEq, Repr

def SettingError.message : SettingError → String
  | .mismatch m => m.message none
  | .notAChoice => "wanted string or table"
  | .choiceCount 0 => "wanted exactly 1 element, found 0 elements"
  | .choiceCount _ => "wanted exactly 1 element, more than 1 element"
  | .choiceContents => "expected empty table"

/-- How one setting is read, into settings of type `S`. -/
structure Reading (S : Type) where
  key : String
  /-- Whether the setting has to be in the table of its section. -/
  required : Bool
  /-- Whether the setting has to be in the list of its section. -/
  requiredInList : Bool
  read : Value → S → Except SettingError S

/-- How a section is read. -/
structure SectionReading (S : Type) where
  what : String
  start : S
  readings : List (Reading S)

namespace SectionReading

variable {S : Type}

/-- Reads the entries of a table in their order. -/
def readEntries (r : SectionReading S) : List (String × Value) → S → Except SettingError S
  | [], s => .ok s
  | (key, v) :: rest, s =>
    match r.readings.find? fun x => x.key = key with
    | none => r.readEntries rest s
    | some x => do r.readEntries rest (← x.read v s)

/-- Reads a table. -/
def readTable (r : SectionReading S) (entries : List (String × Value)) :
    Except SettingError S := do
  let s ← r.readEntries entries r.start
  match r.readings.find? fun x => x.required && (entries.lookup x.key).isNone with
  | some x => .error (.mismatch (.missingField x.key))
  | none => return s

/-- Reads a list. What follows the settings is ignored. -/
def readList (r : SectionReading S) :
    (index : Nat) → List (Reading S) → List Value → S → Except SettingError S
  | _, [], _, s => .ok s
  | index, x :: xs, v :: vs, s => do r.readList (index + 1) xs vs (← x.read v s)
  | index, x :: xs, [], s =>
    if x.requiredInList then
      .error (.mismatch (.wrongLength index (recordLength r.what r.readings.length)))
    else r.readList (index + 1) xs [] s

/-- Reads a section. A moment is taken for a table without settings. -/
def read (r : SectionReading S) : Value → Except SettingError S
  | .table entries => r.readTable entries
  | .moment _ => r.readTable []
  | .list vs => r.readList 0 r.readings vs r.start
  | v => .error (.mismatch (.wrongType v.found r.what))

end SectionReading

/-! ## Kinds of settings -/

namespace Reading

variable {S : Type}

def text (expected : String) : Value → Except SettingError String
  | .text s => .ok s
  | v => .error (.mismatch (.wrongType v.found expected))

def flag : Value → Except SettingError Bool
  | .boolean b => .ok b
  | v => .error (.mismatch (.wrongType v.found "a boolean"))

/-- A whole number below a bound. -/
def number (bound : Nat) (expected : String) : Value → Except SettingError Nat
  | .whole n =>
    if 0 ≤ n ∧ n < bound then .ok n.toNat else .error (.mismatch (.outOfRange n expected))
  | v => .error (.mismatch (.wrongType v.found expected))

/-- The names of the byte orders. -/
def orderNames : List String :=
  [ByteOrder.big.name, ByteOrder.little.name]

def namedOrder (name : String) : Except SettingError ByteOrder :=
  match ByteOrder.ofName? name with
  | some o => .ok o
  | none => .error (.mismatch (.unknownVariant name orderNames))

/-- A byte order: its name, or a table in which the name stands for nothing. -/
def order : Value → Except SettingError ByteOrder
  | .text s => namedOrder s
  | .table [(name, v)] => do
    let o ← namedOrder name
    match v with
    | .table [] | .list [] => return o
    | _ => .error .choiceContents
  | .table entries => .error (.choiceCount entries.length)
  | _ => .error .notAChoice

end Reading

/-! ## The sections -/

open Reading in
def GeneralConfig.reading (hostName : String) : SectionReading GeneralConfig where
  what := "struct GeneralConfig"
  start := { name := hostName }
  readings := [
    ⟨"name", true, true, fun v s => do return { s with name := ← text "a string" v }⟩,
    ⟨"verbose", false, false, fun v s => do return { s with verbose := ← flag v }⟩,
    ⟨"log_file", false, true, fun v s => do
      return { s with logFile := some (← text "path string" v) }⟩]

open Reading in
def ProtocolConfig.reading : SectionReading ProtocolConfig where
  what := "struct ProtocolConfig"
  start := {}
  readings := [
    ⟨"byte_order", false, false, fun v s => do return { s with byteOrder := ← order v }⟩,
    ⟨"max_frame_size", false, false, fun v s => do
      return { s with maxFrameSize := UInt64.ofNat (← number UInt64.size "usize" v) }⟩]

open Reading in
def ListenConfig.reading : SectionReading ListenConfig where
  what := "struct NetworkSection"
  start := {}
  readings := [
    ⟨"port", false, false, fun v s => do
      return { s with port := UInt16.ofNat (← number UInt16.size "u16" v) }⟩,
    ⟨"bind_address", false, true, fun v s => do
      return { s with bindAddress := some (← text "a string" v) }⟩,
    ⟨"connect_timeout_ms", false, false, fun v s => do
      return { s with connectTimeoutMs := UInt64.ofNat (← number UInt64.size "u64" v) }⟩]

open Reading in
def RouterConfig.reading : SectionReading RouterConfig where
  what := "struct RouterConfig"
  start := {}
  readings := [
    ⟨"workers", false, false, fun v s => do
      return { s with workers := UInt64.ofNat (← number UInt64.size "usize" v) }⟩]

def Config.reading (hostName : String) : SectionReading Config where
  what := "struct Config"
  start := Config.default hostName
  readings := [
    ⟨"general", false, false, fun v c => do
      return { c with general := ← (GeneralConfig.reading hostName).read v }⟩,
    ⟨"protocol", false, false, fun v c => do
      return { c with protocol := ← ProtocolConfig.reading.read v }⟩,
    ⟨"network", false, false, fun v c => do
      return { c with network := ← ListenConfig.reading.read v }⟩,
    ⟨"router", false, false, fun v c => do
      return { c with router := ← RouterConfig.reading.read v }⟩]

/-- Why a text does not give settings. -/
inductive ParseError
  /-- The text is no document. -/
  | malformed
  | setting (e : SettingError)
  deriving DecidableEq, Repr

def ParseError.message : ParseError → String
  | .malformed => "malformed document"
  | .setting e => e.message

/-- The settings that a text gives; the others have their defaults. -/
def Config.parse (hostName : String) (text : String) : Except ParseError Config :=
  match Toml.read? text with
  | none => .error .malformed
  | some entries => ((Config.reading hostName).readTable entries).mapError .setting

end Switchboard
