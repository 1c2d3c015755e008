import SqlChain.Decimal.Binary64
import SqlChain.Word

/-!
# Reading a decimal numeral

A numeral is digits, perhaps a fraction, perhaps an exponent. One without
fraction and exponent that fits a signed or an unsigned word of 64 bits is an
integer; `-0` is not, since an integer has no negative zero. Any other numeral
is a floating-point number, read in two roundings: the digits that fit an
unsigned word are rounded to a float, and that float is multiplied or divided
by the float nearest to the power of ten.
-/

namespace SqlChain.Decimal

/-- The parts of a numeral, digits by value. -/
structure Numeral where
  negative : Bool
  whole : List Nat
  fraction : Option (List Nat)
  exponent : Option Int
deriving Repr

/-- What a numeral stands for. -/
inductive Number where
  | int (n : Int)
  | real (x : Binary64)
deriving DecidableEq, Repr

/-- The greatest significand, a word of 64 bits. -/
def maxSignificand : Nat := Word.maxUInt64.toNat

/-- Append digits to a significand as long as it fits its word. The second
component counts the digits taken; the others are lost. -/
def takeDigits (significand : Nat) : List Nat → Nat × Nat
  | [] => (significand, 0)
  | d :: rest =>
      if significand * 10 + d ≤ maxSignificand then
        let (s, taken) := takeDigits (significand * 10 + d) rest
        (s, taken + 1)
      else (significand, 0)

/-- The float nearest to a power of ten. -/
def powerOfTen (n : Nat) : Binary64 := .ofQuotient false (pow10 n) 1

/-- Divide by a power of ten, by `10 ^ 308` at a time. -/
def divPowerOfTen (x : Binary64) (n : Nat) : Binary64 :=
  if n ≤ 308 then x.div (powerOfTen n)
  else if x.isZero then x
  else divPowerOfTen (x.div (powerOfTen 308)) (n - 308)
termination_by n

/-- Scale a float by a power of ten; `none` past the largest finite number. -/
def scaled? (x : Binary64) (exponent : Int) : Option Binary64 :=
  if exponent < 0 then some (divPowerOfTen x exponent.natAbs)
  else if exponent ≤ 308 then
    let y := x.mul (powerOfTen exponent.natAbs)
    if y.isFinite then some y else none
  else if x.isZero then some x
  else none

/-- The value of a numeral read as a float. -/
def Numeral.real? (n : Numeral) : Option Binary64 := do
  let (s, taken) := takeDigits 0 n.whole
  let (significand, places) := takeDigits s (n.fraction.getD [])
  let lost : Int := (n.whole.length - taken : Nat)
  let written : Int := n.exponent.getD 0
  let x ← scaled? (.ofInt significand) (lost - places + written)
  return if n.negative then x.neg else x

/-- The value of a numeral; `none` if it lies past the largest finite number. -/
def Numeral.value? (n : Numeral) : Option Number :=
  let magnitude : Nat := n.whole.foldl (fun m d => m * 10 + d) 0
  match n.fraction, n.exponent, n.negative with
  | none, none, false =>
      if (magnitude : Int) ≤ Word.maxUInt64 then some (.int magnitude) else n.real?.map .real
  | none, none, true =>
      if 0 < magnitude ∧ Word.minInt64 ≤ -(magnitude : Int) then some (.int (-magnitude))
      else n.real?.map .real
  | _, _, _ => n.real?.map .real

end SqlChain.Decimal
