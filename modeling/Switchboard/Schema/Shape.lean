import Switchboard.Schema.Table

/-!
# Shapes

The shape of a message's contents, as data: which fields it has and what they hold. A shape
determines the type of its values, so everything that reads, writes or shows contents is one
recursion over shapes and works for every schema.
-/

namespace Switchboard

/-- The widths of the numbers that contents hold. -/
inductive Width
  | w8
  | w16
  | w32
  | w64
  deriving DecidableEq, Repr

/-- The number of bits of a width. -/
def Width.bits : Width → Nat
  | .w8 => 8
  | .w16 => 16
  | .w32 => 32
  | .w64 => 64

/-- The number of bytes of a width. -/
def Width.bytes : Width → Nat
  | .w8 => 1
  | .w16 => 2
  | .w32 => 4
  | .w64 => 8

/-- A kind of number: signed in two's complement, or unsigned. -/
structure IntKind where
  signed : Bool
  width : Width
  deriving DecidableEq, Repr

namespace IntKind

/-- The values of a kind, as bit patterns. -/
abbrev Value (k : IntKind) : Type :=
  BitVec k.width.bits

/-- The short name of a kind: `u8`, `i32`. -/
def name (k : IntKind) : String :=
  (if k.signed then "i" else "u") ++ toString k.width.bits

/-- The number that a bit pattern stands for. -/
def toInt (k : IntKind) (v : k.Value) : Int :=
  if k.signed then v.toInt else v.toNat

/-- The smallest number of a kind. -/
def least (k : IntKind) : Int :=
  k.toInt (if k.signed then BitVec.intMin _ else 0)

/-- The largest number of a kind. -/
def greatest (k : IntKind) : Int :=
  k.toInt (if k.signed then BitVec.intMax _ else BitVec.allOnes _)

/-- The bit pattern of a number, if it is in range. -/
def ofInt? (k : IntKind) (n : Int) : Option k.Value :=
  if k.least ≤ n ∧ n ≤ k.greatest then some (BitVec.ofInt k.width.bits n) else none

end IntKind

/-- What the keys of a map are: texts, or pairs of bytes. -/
inductive KeyShape
  | text
  | pair
  deriving DecidableEq, Repr

namespace KeyShape

/-- The keys of a key shape. -/
abbrev Key : KeyShape → Type
  | .text => String
  | .pair => BitVec 8 × BitVec 8

/-- Texts are ordered by their code points, pairs by the first and then by the second byte. -/
def order : (k : KeyShape) → k.Key → k.Key → Ordering
  | .text => compare
  | .pair => compareLex (compareOn Prod.fst) (compareOn Prod.snd)

instance (k : KeyShape) : Std.TransCmp k.order := by
  cases k
  · exact inferInstanceAs (Std.TransCmp (compare : String → String → Ordering))
  · exact inferInstanceAs (Std.TransCmp (compareLex
      (compareOn (Prod.fst : BitVec 8 × BitVec 8 → BitVec 8)) (compareOn Prod.snd)))

end KeyShape

mutual

/-- The shape of a piece of contents. -/
inductive Shape
  | bool
  | int (kind : IntKind)
  | char
  | text
  /-- A named value without contents. -/
  | unit (name : String)
  | option (item : Shape)
  | list (item : Shape)
  | map (key : KeyShape) (item : Shape)
  | pair (first second : Shape)
  /-- Named fields in the order of their declaration. -/
  | record (name : String) (fields : Fields)
  /-- One of several alternatives. -/
  | choice (name : String) (variants : Variants)
  deriving DecidableEq

/-- The fields of a record. -/
inductive Fields
  | nil
  | cons (name : String) (item : Shape) (rest : Fields)
  deriving DecidableEq

/-- The alternatives of a choice: bare, with one value, or with fields. -/
inductive Variants
  | nil
  | bare (name : String) (rest : Variants)
  | single (name : String) (item : Shape) (rest : Variants)
  | fields (name : String) (items : Fields) (rest : Variants)
  deriving DecidableEq

end

mutual

/-- The values of a shape. -/
@[reducible] def Shape.Val : Shape → Type
  | .bool => Bool
  | .int k => k.Value
  | .char => Char
  | .text => String
  | .unit _ => Unit
  | .option s => Option s.Val
  | .list s => List s.Val
  | .map k s => Table k.order s.Val
  | .pair a b => a.Val × b.Val
  | .record _ fs => fs.Val
  | .choice _ vs => vs.Val

/-- The values of all fields, in order. -/
@[reducible] def Fields.Val : Fields → Type
  | .nil => Unit
  | .cons _ s rest => s.Val × rest.Val

/-- A value of one of the alternatives. -/
@[reducible] def Variants.Val : Variants → Type
  | .nil => Empty
  | .bare _ rest => Unit ⊕ rest.Val
  | .single _ s rest => s.Val ⊕ rest.Val
  | .fields _ fs rest => fs.Val ⊕ rest.Val

end

/-- The number of fields. -/
def Fields.length : Fields → Nat
  | .nil => 0
  | .cons _ _ rest => rest.length + 1

/-- The names of the fields, in order. -/
def Fields.names : Fields → List String
  | .nil => []
  | .cons n _ rest => n :: rest.names

/-- The number of alternatives. -/
def Variants.length : Variants → Nat
  | .nil => 0
  | .bare _ rest | .single _ _ rest | .fields _ _ rest => rest.length + 1

namespace Shape

/-- The shapes of numbers. -/
abbrev u8 : Shape := .int ⟨false, .w8⟩
abbrev u16 : Shape := .int ⟨false, .w16⟩
abbrev u32 : Shape := .int ⟨false, .w32⟩
abbrev u64 : Shape := .int ⟨false, .w64⟩
abbrev i8 : Shape := .int ⟨true, .w8⟩
abbrev i16 : Shape := .int ⟨true, .w16⟩
abbrev i32 : Shape := .int ⟨true, .w32⟩
abbrev i64 : Shape := .int ⟨true, .w64⟩

end Shape

/-- The fields of a record from a list of names and shapes. -/
def Fields.ofList : List (String × Shape) → Fields
  | [] => .nil
  | (n, s) :: rest => .cons n s (ofList rest)

end Switchboard
