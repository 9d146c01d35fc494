import Switchboard.Schema.Shape

/-!
# Schemas and messages

A schema is what both ends of a connection know about one type of message. Its tag names it in a
registry; two schemas with the same tag are still different types unless they agree in everything.
-/

namespace Switchboard

/-- How payloads are written. -/
inductive Format
  | binary
  | json
  deriving DecidableEq, Repr

/-- The name under which a format is listed. -/
def Format.name : Format → String
  | .binary => "bincode"
  | .json => "json"

/-- A type of message. -/
structure Schema where
  /-- The full name of the type. -/
  typeName : String
  /-- The stable name under which a registry knows the type. -/
  tag : String
  format : Format
  shape : Shape
  deriving DecidableEq

/-- The values of a schema. -/
abbrev Schema.Value (s : Schema) : Type :=
  s.shape.Val

/-- A value together with its type. -/
structure Message where
  schema : Schema
  value : schema.Value

namespace Message

/-- The tag of the message's own type. -/
def tag (m : Message) : String :=
  m.schema.tag

/-- Whether the message is of a type. -/
def is (m : Message) (s : Schema) : Bool :=
  m.schema = s

/-- The value, if the message is of the type. -/
def as? (m : Message) (s : Schema) : Option s.Value :=
  if h : m.schema = s then some (h ▸ m.value) else none

@[simp] theorem as?_self (s : Schema) (v : s.Value) : (Message.mk s v).as? s = some v := by
  simp [as?]

theorem as?_eq_some_iff {m : Message} {s : Schema} {v : s.Value} :
    m.as? s = some v ↔ m = ⟨s, v⟩ := by
  constructor
  · intro h
    obtain ⟨t, w⟩ := m
    unfold as? at h
    split at h
    · next hs =>
      subst hs
      simpa using h
    · cases h
  · rintro rfl
    simp

theorem isSome_as? (m : Message) (s : Schema) : (m.as? s).isSome = m.is s := by
  unfold as? is
  split <;> simp_all

end Message

end Switchboard
