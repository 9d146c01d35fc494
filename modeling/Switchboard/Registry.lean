import Switchboard.Payload
import Switchboard.Text.Layout
import Switchboard.Text.Quoted

/-!
# The registry

Which identifier stands for which type of message, and who is attached to each type. Entries are
kept in the order of their registration and are never removed. Two tables point into that list: a
dense one by identifier, which grows on demand, and one by tag. A registration that fails, like an
attachment that fails, leaves everything as it was.

The parties that can be attached are a parameter `P`: a registry only keeps them.
-/

namespace Switchboard

/-- The number that names a type of message on the wire. -/
abbrev MessageId : Type :=
  UInt16

/-- The largest number of entries. -/
def maxMessages : Nat :=
  65536

/-- Why a registry refuses a change. -/
inductive RegistryError
  | invalidSchema (typeName : String)
  | alreadyRegistered (tag : String) (id : MessageId)
  | idInUse (id : MessageId) (existing tag : String)
  | overflow (max : Nat)
  | unknownSchema (tag : String)
  | unknownId (id : MessageId)
  deriving DecidableEq, Repr

def RegistryError.message : RegistryError → String
  | .invalidSchema typeName => s!"Invalid schema {typeName}: tag must not be empty"
  | .alreadyRegistered tag id => s!"Message {tag} is already registered with ID {id}"
  | .idInUse id existing tag => s!"Message ID {id} is already bound to {existing}, cannot bind {tag}"
  | .overflow max => s!"Too many messages (max = {max})"
  | .unknownSchema tag => s!"Message {tag} not registered"
  | .unknownId id => s!"Message ID {id} not registered"

/-- A local handler: it was written for one type of message and passes over all others. -/
structure Handler (P : Type) where
  accepts : Schema
  party : P
  deriving DecidableEq

/-- Everything the registry knows about one type of message. -/
structure Entry (P : Type) where
  id : MessageId
  schema : Schema
  handler : Option (Handler P)
  router : Option P
  rawHandler : Option P
  deriving DecidableEq

namespace Entry

variable {P : Type}

/-- An entry that nobody is attached to. -/
def new (id : MessageId) (schema : Schema) : Entry P :=
  ⟨id, schema, none, none, none⟩

def tag (e : Entry P) : String :=
  e.schema.tag

/-- Whether a message is of exactly this type. -/
def accepts (e : Entry P) (m : Message) : Bool :=
  m.is e.schema

/-- The payload of a message of this type; none for any other message. -/
def encodePayload? (e : Entry P) (m : Message) : Option (Except PayloadError Bytes) :=
  (m.as? e.schema).map e.schema.write

/-- The message that a payload holds. -/
def decodePayload (e : Entry P) (bs : Bytes) : Except PayloadError Message :=
  (e.schema.read bs).map (Message.mk e.schema)

end Entry

/-- Types of messages by identifier and by tag. -/
structure Registry (P : Type) where
  /-- In the order of registration. -/
  entries : List (Entry P)
  /-- At each identifier, the place of its entry. -/
  slotsById : Array (Option UInt16)
  /-- The places of the entries by tag. -/
  slotsByTag : List (String × UInt16)

namespace Registry

variable {P : Type}

/-- No entries. -/
def empty : Registry P :=
  ⟨[], #[], []⟩

/-- The number of entries. -/
def size (r : Registry P) : Nat :=
  r.entries.length

/-! ## Looking up -/

/-- The place of the entry with an identifier. -/
def slotOfId? (r : Registry P) (id : MessageId) : Option UInt16 :=
  r.slotsById[id.toNat]?.join

/-- The place of the entry with a tag. -/
def slotOfTag? (r : Registry P) (tag : String) : Option UInt16 :=
  r.slotsByTag.lookup tag

/-- The entry with an identifier. -/
def byId? (r : Registry P) (id : MessageId) : Option (Entry P) :=
  (r.slotOfId? id).bind fun slot => r.entries[slot.toNat]?

/-- The entry with a tag. -/
def byTag? (r : Registry P) (tag : String) : Option (Entry P) :=
  (r.slotOfTag? tag).bind fun slot => r.entries[slot.toNat]?

/-- The entry of a message's own type. Another type with the same tag does not count. -/
def lookup? (r : Registry P) (m : Message) : Option (Entry P) :=
  (r.byTag? m.tag).filter fun e => e.accepts m

/-- The identifier under which a schema's tag is registered. -/
def idOf? (r : Registry P) (s : Schema) : Option MessageId :=
  (r.byTag? s.tag).map Entry.id

/-- Identifiers and tags in the order of registration. -/
def range (r : Registry P) : List (MessageId × String) :=
  r.entries.map fun e => (e.id, e.tag)

/-! ## Registering -/

/-- A table of places, grown to hold index `i`, with a place put there. -/
def putSlot (slots : Array (Option UInt16)) (i : Nat) (slot : UInt16) : Array (Option UInt16) :=
  (slots ++ Array.replicate (i + 1 - slots.size) none).setIfInBounds i (some slot)

/-- Binds an identifier to a schema. -/
def register (r : Registry P) (id : MessageId) (s : Schema) :
    Except RegistryError (Registry P) :=
  if s.tag = "" then .error (.invalidSchema s.typeName)
  else
    match r.byTag? s.tag with
    | some e => .error (.alreadyRegistered s.tag e.id)
    | none =>
      match r.byId? id with
      | some e => .error (.idInUse id e.tag s.tag)
      | none =>
        if maxMessages ≤ r.size then .error (.overflow maxMessages)
        else
          let slot := UInt16.ofNat r.size
          .ok
            { entries := r.entries ++ [Entry.new id s]
              slotsById := putSlot r.slotsById id.toNat slot
              slotsByTag := (s.tag, slot) :: r.slotsByTag }

/-! ## Attaching -/

/-- Changes the entry at a place. -/
def modifyAt (r : Registry P) (slot : UInt16) (f : Entry P → Entry P) : Registry P :=
  { r with entries := r.entries.modify slot.toNat f }

/-- The place of the entry that is registered for exactly this schema. -/
def slotOfSchema (r : Registry P) (s : Schema) : Except RegistryError UInt16 :=
  match r.slotOfTag? s.tag with
  | none => .error (.unknownSchema s.tag)
  | some slot =>
    match r.entries[slot.toNat]? with
    | some e => if e.schema = s then .ok slot else .error (.unknownSchema s.tag)
    | none => .error (.unknownSchema s.tag)

/-- Attaches a local handler to a schema, in the place of an earlier one. -/
def setHandler (r : Registry P) (s : Schema) (p : P) : Except RegistryError (Registry P) :=
  (r.slotOfSchema s).map fun slot => r.modifyAt slot fun e => { e with handler := some ⟨s, p⟩ }

/-- Attaches a router to a schema, in the place of an earlier one. -/
def setRouter (r : Registry P) (s : Schema) (p : P) : Except RegistryError (Registry P) :=
  (r.slotOfSchema s).map fun slot => r.modifyAt slot fun e => { e with router := some p }

/-- Attaches a raw handler to an identifier, in the place of an earlier one. Payloads with that
identifier are no longer decoded. -/
def setRawHandler (r : Registry P) (id : MessageId) (p : P) : Except RegistryError (Registry P) :=
  match r.slotOfId? id with
  | some slot => .ok (r.modifyAt slot fun e => { e with rawHandler := some p })
  | none => .error (.unknownId id)

end Registry

/-! ## Describing -/

/-- A truth value as a word. -/
def boolWord (b : Bool) : String :=
  if b then "true" else "false"

/-- The description of an entry. -/
def Entry.describe {P : Type} (e : Entry P) (l : Text.Layout) : String :=
  l.record "MessageInfo"
    [("id", Text.leaf (toString e.id)),
      ("tag", Text.leaf (Text.quoted e.tag)),
      ("type_name", Text.leaf (Text.quoted e.schema.typeName)),
      ("format", Text.leaf (Text.quoted e.schema.format.name)),
      ("handler", Text.leaf (boolWord e.handler.isSome)),
      ("router", Text.leaf (boolWord e.router.isSome)),
      ("raw_handler", Text.leaf (boolWord e.rawHandler.isSome))]

/-- The description of a registry: its entries in order. -/
def Registry.describe {P : Type} (r : Registry P) (l : Text.Layout) : String :=
  l.list (r.entries.map Entry.describe)

end Switchboard
