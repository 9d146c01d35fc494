import Mathlib.Data.List.Forall2
import Switchboard.Payload
import Switchboard.Schema.Samples

/-!
# What payloads rely on

Not every value of every shape comes back from a payload. In binary, a length has to fit on eight
bytes and the number of an alternative on four. In JSON, `null` has to mean one thing only, fields
and alternatives have to have different names, and the keys of a map have to be texts. The shapes of
this program and of the samples are such.
-/

namespace Switchboard

/-- A computation that gives something went through both of its parts. -/
theorem bind_eq_ok_iff {ε α β : Type} {x : Except ε α} {f : α → Except ε β} {b : β} :
    x >>= f = .ok b ↔ ∃ a, x = .ok a ∧ f a = .ok b := by
  rcases x with e | a
  · constructor
    · intro h
      cases h
    · rintro ⟨a, ha, -⟩
      cases ha
  · constructor
    · intro h
      exact ⟨a, rfl, h⟩
    · rintro ⟨a', ha, h⟩
      cases ha
      exact h

theorem mapError_eq_ok_iff {ε ε' α : Type} {x : Except ε α} {f : ε → ε'} {a : α} :
    x.mapError f = .ok a ↔ x = .ok a := by
  cases x <;> simp [Except.mapError]

/-- If something is made of every item of a list, then each is made of its item. -/
theorem forall₂_of_mapM {α β : Type} {f : α → Option β} {as : List α} {bs : List β}
    (h : as.mapM f = some bs) : List.Forall₂ (fun a b => f a = some b) as bs := by
  induction as generalizing bs with
  | nil =>
    cases h
    exact .nil
  | cons a as ih =>
    rw [List.mapM_cons] at h
    obtain ⟨b, hb, h⟩ := Option.bind_eq_some_iff.mp h
    obtain ⟨more, hmore, h⟩ := Option.bind_eq_some_iff.mp h
    cases h
    exact .cons hb (ih hmore)

/-! ## Lengths -/

/-- Whether a length fits on the bytes that are written for it. Whatever is held in memory is much
shorter. -/
def Binary.FitsLength (n : Nat) : Prop :=
  n < Bytes.capacity 8

/-- Whether the length of a text fits. -/
def Binary.FitsText (s : String) : Prop :=
  Binary.FitsLength (Utf8.ofString s).length

def Binary.FitsKey : (k : KeyShape) → k.Key → Prop
  | .text, s => Binary.FitsText s
  | .pair, _ => True

mutual

/-- Whether all lengths within a value fit, and the numbers of alternatives. -/
def Shape.Fits : (s : Shape) → s.Val → Prop
  | .bool, _ | .int _, _ | .char, _ | .unit _, _ => True
  | .text, t => Binary.FitsText t
  | .option s, v =>
    match v with
    | none => True
    | some v => s.Fits v
  | .list s, vs => Binary.FitsLength vs.length ∧ ∀ v ∈ vs, s.Fits v
  | .map k s, t =>
    Binary.FitsLength t.entries.length ∧ ∀ e ∈ t.entries, Binary.FitsKey k e.1 ∧ s.Fits e.2
  | .pair a b, v => a.Fits v.1 ∧ b.Fits v.2
  | .record _ fs, v => fs.Fits v
  | .choice _ vs, v => vs.Fits 0 v

def Fields.Fits : (fs : Fields) → fs.Val → Prop
  | .nil, _ => True
  | .cons _ s rest, v => s.Fits v.1 ∧ rest.Fits v.2

/-- Alternatives are counted from `index`. -/
def Variants.Fits : (vs : Variants) → (index : Nat) → vs.Val → Prop
  | .nil, _, v => nomatch v
  | .bare _ rest, i, v =>
    match v with
    | .inl _ => i < Bytes.capacity 4
    | .inr v => rest.Fits (i + 1) v
  | .single _ s rest, i, v =>
    match v with
    | .inl v => i < Bytes.capacity 4 ∧ s.Fits v
    | .inr v => rest.Fits (i + 1) v
  | .fields _ fs rest, i, v =>
    match v with
    | .inl v => i < Bytes.capacity 4 ∧ fs.Fits v
    | .inr v => rest.Fits (i + 1) v

end

/-! ## Names and nulls -/

/-- Whether a value can be written as `null`. -/
def Shape.isNullable : Shape → Bool
  | .unit _ | .option _ => true
  | _ => false

mutual

/-- Whether JSON tells all values of a shape apart: no optional value is `null` itself, and no two
fields or alternatives have the same name. -/
def Shape.isLegible : Shape → Bool
  | .bool | .int _ | .char | .text | .unit _ => true
  | .option s => !s.isNullable && s.isLegible
  | .list s => s.isLegible
  | .map _ s => s.isLegible
  | .pair a b => a.isLegible && b.isLegible
  | .record _ fs => fs.isLegible
  | .choice _ vs => vs.isLegible

def Fields.isLegible : Fields → Bool
  | .nil => true
  | .cons name s rest => !rest.names.contains name && s.isLegible && rest.isLegible

def Variants.isLegible : Variants → Bool
  | .nil => true
  | .bare name rest => !rest.names.contains name && rest.isLegible
  | .single name s rest => !rest.names.contains name && s.isLegible && rest.isLegible
  | .fields name fs rest => !rest.names.contains name && fs.isLegible && rest.isLegible

end

mutual

/-- Whether all keys of maps are texts. -/
def Shape.hasTextKeys : Shape → Bool
  | .bool | .int _ | .char | .text | .unit _ => true
  | .option s | .list s => s.hasTextKeys
  | .map k s => k = .text && s.hasTextKeys
  | .pair a b => a.hasTextKeys && b.hasTextKeys
  | .record _ fs => fs.hasTextKeys
  | .choice _ vs => vs.hasTextKeys

def Fields.hasTextKeys : Fields → Bool
  | .nil => true
  | .cons _ s rest => s.hasTextKeys && rest.hasTextKeys

def Variants.hasTextKeys : Variants → Bool
  | .nil => true
  | .bare _ rest => rest.hasTextKeys
  | .single _ s rest => s.hasTextKeys && rest.hasTextKeys
  | .fields _ fs rest => fs.hasTextKeys && rest.hasTextKeys

end

/-- All shapes in use can be told apart in JSON. -/
theorem Samples.isLegible_of_mem {s : Schema} (h : s ∈ Samples.all) : s.shape.isLegible = true := by
  revert s
  decide

/-- The keys of maps are texts in all shapes but one. -/
theorem Samples.hasTextKeys_of_mem {s : Schema} (h : s ∈ Samples.all) (hs : s ≠ Samples.scores) :
    s.shape.hasTextKeys = true := by
  revert s
  decide

end Switchboard
