import SqlChain.Shape.Mismatch
import SqlChain.Word

/-!
# Shapes of typed data

A shape is a code for a type of scalar data, and `Carrier` the type it stands
for. Reading goes from JSON into the carrier and names the mismatch where it
fails; writing goes back. Integers are taken where a float is wanted, never the
other way round.
-/

namespace SqlChain

open Decimal (Binary64 Number)

/-- A code for a type of data. -/
inductive Shape where
  | int64
  | uint64
  | byte
  | float
  | bool
  | text
  | json
  | choice (names : List String)
  | optional (inner : Shape)
deriving Repr

namespace Shape

/-- The type that a shape stands for. A choice is the place of its name. -/
def Carrier : Shape → Type
  | .int64 => Int64
  | .uint64 => UInt64
  | .byte => UInt8
  | .float => Binary64
  | .bool => Bool
  | .text => String
  | .json => Json
  | .choice names => Fin names.length
  | .optional inner => Option inner.Carrier

/-- An integer between two bounds. -/
def readInt (low high : Int) (wanted : String) : Json → Except Mismatch Int
  | .number (.int n) =>
      if low ≤ n ∧ n ≤ high then .ok n else .error (.wrongValue (.int n) wanted)
  | other => .error (.wrongType other wanted)

/-- A number as a float. -/
def readFloat : Json → Except Mismatch Binary64
  | .number (.int n) => .ok (.ofInt n)
  | .number (.real x) => .ok x
  | other => .error (.wrongType other "f64")

/-- A truth value. -/
def readBool : Json → Except Mismatch Bool
  | .bool b => .ok b
  | other => .error (.wrongType other "a boolean")

/-- A text. -/
def readText : Json → Except Mismatch String
  | .text s => .ok s
  | other => .error (.wrongType other "a string")

/-- The place of a name among those offered. -/
def variantNamed (names : List String) (name : String) : Except Mismatch (Fin names.length) :=
  match names.finIdxOf? name with
  | some i => .ok i
  | none => .error (.unknownVariant name names)

/-- A choice by name, either alone or as the only member of an object, with
null for its content. -/
def readChoice (names : List String) : Json → Except Mismatch (Fin names.length)
  | .text name => variantNamed names name
  | .object [(name, content)] => do
      let i ← variantNamed names name
      match content with
      | .null => return i
      | other => throw (.wrongType other "unit")
  | .object members => .error (.wrongValue (.object members) "map with a single key")
  | other => .error (.wrongType other "string or map")

/-- Read a value of the shape. -/
def read : (s : Shape) → Json → Except Mismatch s.Carrier
  | .int64, j => (readInt Word.minInt64 Word.maxInt64 "i64" j).map Int64.ofInt
  | .uint64, j => (readInt 0 Word.maxUInt64 "u64" j).map fun n => UInt64.ofNat n.toNat
  | .byte, j => (readInt 0 Word.maxByte "u8" j).map fun n => UInt8.ofNat n.toNat
  | .float, j => readFloat j
  | .bool, j => readBool j
  | .text, j => readText j
  | .json, j => .ok j
  | .choice names, j => readChoice names j
  | .optional _, .null => .ok none
  | .optional inner, j => (inner.read j).map some

/-- Write a value of the shape. -/
def write : (s : Shape) → s.Carrier → Json
  | .int64, n => .int (Int64.toInt n)
  | .uint64, n => .int (UInt64.toNat n)
  | .byte, n => .int (UInt8.toNat n)
  | .float, x => .real x
  | .bool, b => .bool b
  | .text, s => .text s
  | .json, j => j
  | .choice names, i => .text (names.get i)
  | .optional _, none => .null
  | .optional inner, some x => inner.write x

/-- The value of a field that is not there: only an optional one has any. -/
def absent? : (s : Shape) → Option s.Carrier
  | .optional _ => some none
  | _ => none

end Shape

end SqlChain
