import SqlChain.Sqlite.Affinity

/-!
# Arithmetic

Integers are added, subtracted, multiplied and divided as integers as long as
the result fits a word, and as floats otherwise. A division by zero is null, and
so is a float that is not a number.
-/

namespace SqlChain.Sqlite

open Decimal (Binary64)

/-! ## Floats -/

/-- The magnitude with its sign as a quotient of an integer and a natural. -/
def signedQuotient (x : Binary64) : Int × Nat :=
  let (a, b) := x.magnitude
  (if x.isNegative then -(a : Int) else a, b)

/-- The sum; `none` if it is not a number. -/
def addReals (x y : Binary64) : Option Binary64 :=
  if !x.isFinite then
    if !y.isFinite && x.isNegative != y.isNegative then none else some x
  else if !y.isFinite then some y
  else
    let (a, b) := signedQuotient x
    let (c, d) := signedQuotient y
    let n := a * d + c * b
    if n = 0 then some (.ofParts (x.isNegative && y.isNegative) 0)
    else some (.ofQuotient (n < 0) n.natAbs (b * d))

/-- The product; `none` if it is not a number. -/
def mulReals (x y : Binary64) : Option Binary64 :=
  if !x.isFinite || !y.isFinite then
    if x.isZero || y.isZero then none else some (.infinity (x.isNegative != y.isNegative))
  else some (x.mul y)

/-- The quotient; `none` if it is not a number or the divisor is zero. -/
def divReals (x y : Binary64) : Option Binary64 :=
  if y.isZero then none
  else if !x.isFinite then
    if !y.isFinite then none else some (.infinity (x.isNegative != y.isNegative))
  else if !y.isFinite then some (.ofParts (x.isNegative != y.isNegative) 0)
  else some (x.div y)

/-! ## Integers -/

/-- The result of an operation on integers that fits a word. -/
def Arithmetic.ofIntegers (op : Arithmetic) (a b : Int) : Option Int64 :=
  match op with
  | .add => Word.int64? (a + b)
  | .sub => Word.int64? (a - b)
  | .mul => Word.int64? (a * b)
  | .div => Word.int64? (Int.tdiv a b)
  | .rem => Word.int64? (Int.tmod a b)
  | _ => none

/-- The result of an operation on floats; null if it is no number. -/
def Arithmetic.ofReals (op : Arithmetic) (x y : Binary64) : Datum :=
  let result := match op with
    | .add => addReals x y
    | .sub => addReals x y.neg
    | .mul => mulReals x y
    | .div => divReals x y
    | _ => none
  match result with
  | some r => .value (.real r)
  | none => .null

/-- Shift the bits of a word to the left, or to the right by a negative distance.
The sign goes on to the right. -/
def shifted (n : Int64) (distance : Int) : Int64 :=
  if distance ≥ 64 then 0
  else if distance ≥ 0 then
    UInt64.toInt64 (UInt64.ofNat (n.toUInt64.toNat * Decimal.pow2 distance.toNat))
  else Int64.ofInt (Int.fdiv n.toInt (Decimal.pow2 (min 64 (-distance).toNat)))

/-- The result of an operation on the bits of two integers. -/
def Arithmetic.ofBits (op : Arithmetic) (a b : Int64) : Int64 :=
  match op with
  | .bitAnd => a &&& b
  | .bitOr => a ||| b
  | .shiftLeft => shifted a b.toInt
  | .shiftRight => shifted a (-b.toInt)
  | _ => 0

/-- Whether the operation is on bits. -/
def Arithmetic.isBitwise : Arithmetic → Bool
  | .bitAnd => true
  | .bitOr => true
  | .shiftLeft => true
  | .shiftRight => true
  | _ => false

/-- The remainder of integers; null by zero. -/
def remainder (a b : Int64) (real : Bool) : Datum :=
  if b = 0 then .null
  else
    let r := Int.tmod a.toInt b.toInt
    if real then .value (.real (.ofInt r)) else .integer (Int64.ofInt r)

/-- The result of an operation on two values. -/
def Arithmetic.apply (op : Arithmetic) (d e : Datum) : Datum :=
  if d.isNull || e.isNull then .null
  else if op.isBitwise then .integer (op.ofBits d.asInteger e.asInteger)
  else
    match d.asNumber, e.asNumber with
    | .value (.integer a), .value (.integer b) =>
        if (op = .div ∨ op = .rem) ∧ b = 0 then .null
        else
          match op.ofIntegers a.toInt b.toInt with
          | some n => .integer n
          | none => op.ofReals (.ofInt a.toInt) (.ofInt b.toInt)
    | _, _ =>
        if op = .rem then remainder d.asInteger e.asInteger true
        else op.ofReals d.asReal e.asReal

end SqlChain.Sqlite
