import SqlChain.Decimal.Power
import SqlChain.Decimal.Rounding

/-!
# Binary floating-point numbers of 64 bits

A number is its word: a sign, eleven bits of exponent and fifty-two of
fraction. Arithmetic decodes the word to a significand and a power of two,
works on exact naturals and rounds once at the end, so that every operation
here is a function that proofs can follow. Equality of words tells `0.0` from
`-0.0` and one NaN from itself not at all; `alike` is the comparison of the
numbers, where the two zeros agree and a NaN agrees with nothing.
-/

namespace SqlChain.Decimal

/-- A binary floating-point number, by its word. -/
structure Binary64 where
  bits : UInt64
deriving DecidableEq, Repr

namespace Binary64

/-- The low fifty-two bits. -/
def fraction (x : Binary64) : Nat := x.bits.toNat % pow2 52

/-- The eleven bits above the fraction. -/
def exponentField (x : Binary64) : Nat := x.bits.toNat / pow2 52 % pow2 11

/-- The top bit. -/
def isNegative (x : Binary64) : Bool := pow2 63 ≤ x.bits.toNat

/-- Neither an infinity nor a NaN. -/
def isFinite (x : Binary64) : Bool := x.exponentField != 2047

/-- The words that stand for no number. -/
def isNaN (x : Binary64) : Bool := x.exponentField == 2047 && x.fraction != 0

/-- Either of the two zeros. -/
def isZero (x : Binary64) : Bool := x.bits.toNat % pow2 63 == 0

/-- The magnitude is `significand * 2 ^ scale`. -/
def significand (x : Binary64) : Nat :=
  if x.exponentField = 0 then x.fraction else x.fraction + pow2 52

/-- The power of two of the magnitude. -/
def scale (x : Binary64) : Int :=
  if x.exponentField = 0 then -1074 else x.exponentField - 1075

/-- The magnitude as a quotient of naturals. -/
def magnitude (x : Binary64) : Nat × Nat :=
  if 0 ≤ x.scale then (x.significand * pow2 x.scale.toNat, 1)
  else (x.significand, pow2 (-x.scale).toNat)

/-- Build a word from its sign and the other sixty-three bits. -/
def ofParts (negative : Bool) (rest : Nat) : Binary64 :=
  ⟨UInt64.ofNat (rest + if negative then pow2 63 else 0)⟩

/-- The infinity of a sign. -/
def infinity (negative : Bool) : Binary64 := ofParts negative (2047 * pow2 52)

/-- The greatest `e` with `2 ^ e ≤ num / den`. -/
def log2Quotient (num den : Nat) : Int :=
  let e : Int := (num.log2 : Int) - den.log2
  let reached := if 0 ≤ e then den * pow2 e.toNat ≤ num else den ≤ num * pow2 (-e).toNat
  if reached then e else e - 1

/-- The number nearest to `num / den` with the given sign, a half going to the
even significand. Past the largest finite number it is the infinity. -/
def ofQuotient (negative : Bool) (num den : Nat) : Binary64 :=
  if num = 0 then ofParts negative 0
  else
    let q : Int := max (log2Quotient num den - 52) (-1074)
    let m :=
      if 0 ≤ q then roundDiv num (den * pow2 q.toNat) .toEven
      else roundDiv (num * pow2 (-q).toNat) den .toEven
    let rest := (q + 1074).toNat * pow2 52 + m
    if rest < 2047 * pow2 52 then ofParts negative rest else infinity negative

/-- The number nearest to an integer. -/
def ofInt (n : Int) : Binary64 := ofQuotient (n < 0) n.natAbs 1

/-- The same magnitude under the other sign. -/
def neg (x : Binary64) : Binary64 := ofParts (!x.isNegative) (x.bits.toNat % pow2 63)

/-- The product of two finite numbers, rounded. -/
def mul (x y : Binary64) : Binary64 :=
  let (a, b) := x.magnitude
  let (c, d) := y.magnitude
  ofQuotient (x.isNegative != y.isNegative) (a * c) (b * d)

/-- The quotient of a finite number by a finite number other than zero, rounded. -/
def div (x y : Binary64) : Binary64 :=
  let (a, b) := x.magnitude
  let (c, d) := y.magnitude
  ofQuotient (x.isNegative != y.isNegative) (a * d) (b * c)

/-- Widen a number of thirty-two bits. Nothing is lost; a NaN becomes quiet. -/
def ofBinary32 (word : UInt32) : Binary64 :=
  let negative : Bool := pow2 31 ≤ word.toNat
  let field := word.toNat / pow2 23 % pow2 8
  let frac := word.toNat % pow2 23
  if field = 255 then
    if frac = 0 then infinity negative
    else ofParts negative (2047 * pow2 52 + pow2 51 + frac % pow2 22 * pow2 29)
  else if field = 0 then ofQuotient negative frac (pow2 149)
  else if 150 ≤ field then ofQuotient negative ((frac + pow2 23) * pow2 (field - 150)) 1
  else ofQuotient negative (frac + pow2 23) (pow2 (150 - field))

/-! ## Order -/

/-- A position on the line of numbers: the two zeros share one, and words that
are no NaN lie as their numbers do. -/
def rank (x : Binary64) : Int :=
  let rest : Int := (x.bits.toNat % pow2 63 : Nat)
  if x.isNegative then -rest else rest

/-- Equality of numbers, false of a NaN. -/
def alike (x y : Binary64) : Bool :=
  !x.isNaN && !y.isNaN && x.rank == y.rank

/-- The exact comparison of a number that is no NaN with an integer. -/
def compareInt (x : Binary64) (n : Int) : Ordering :=
  let (a, b) := x.magnitude
  let signed : Int := if x.isNegative then -(a : Int) else a
  compare signed (n * b)

end Binary64

end SqlChain.Decimal
