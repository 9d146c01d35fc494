import Switchboard.Builtin

/-!
# Sample schemas

A catalogue of message types with every shape that contents can have: texts, numbers of all widths,
lists, maps, choices and values without contents, two types that share a tag, and one without any.
-/

namespace Switchboard.Samples

/-- The name of a sample type. -/
def typeNamed (name : String) : String :=
  "oracle::schemas::" ++ name

/-- A record type. -/
def record (name tag : String) (format : Format) (fields : List (String × Shape)) : Schema where
  typeName := typeNamed name
  tag := tag
  format := format
  shape := .record name (.ofList fields)

/-- A type without contents. -/
def bare (name tag : String) (format : Format) : Schema where
  typeName := typeNamed name
  tag := tag
  format := format
  shape := .unit name

def chat : Schema := record "Chat" "test.Chat" .json [("from", .text), ("text", .text)]

/-- Another type with the tag of `chat`. -/
def chatImpostor : Schema := bare "ChatImpostor" "test.Chat" .binary

def shoot : Schema := record "Shoot" "test.Shoot" .binary [("target", .u32)]

def move : Schema := record "Move" "test.Move" .binary [("x", .i16)]

def point : Schema := record "Point" "test.Point" .json [("x", .i32), ("y", .i32)]

def login : Schema := record "Login" "test.Login" .binary [("user", .text)]

def stray : Schema := bare "Stray" "test.Stray" .binary

def unrouted : Schema := bare "Unrouted" "test.Unrouted" .json

/-- A type that no registry takes. -/
def untagged : Schema := bare "Untagged" "" .binary

def unknown : Schema := record "Unknown" "test.Unknown" .binary [("value", .u8)]

/-- A type whose values JSON can only hold when they are empty. -/
def scores : Schema := record "Scores" "test.Scores" .json [("by_pair", .map .pair .u8)]

/-- A choice with every form of alternative. -/
def kind : Shape :=
  .choice "Kind" (.bare "Bare" (.single "Melee" .u8
    (.fields "Ranged" (.ofList [("ammo", .u32), ("spread", .i16)]) .nil)))

def item : Shape :=
  .record "Item" (.ofList [("name", .text), ("count", .u64)])

def loadout : Schema :=
  record "Loadout" "test.Loadout" .binary
    [("alive", .bool), ("slot", .option .i8), ("grade", .char), ("kind", kind),
      ("items", .list item), ("stash", .map .text .u16), ("at", .pair .i16 .i64)]

def profile : Schema :=
  record "Profile" "test.Profile" .json
    [("id", .u64), ("level", .i8), ("admin", .bool), ("nick", .option .text),
      ("tags", .list .text)]

/-- All message types: the built-in ones and the samples. -/
def all : List Schema :=
  Builtin.bindings.map Prod.snd ++
    [chat, chatImpostor, shoot, move, point, login, stray, unrouted, untagged, unknown, scores,
      loadout, profile]

end Switchboard.Samples
