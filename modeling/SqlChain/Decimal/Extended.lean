import SqlChain.Decimal.Binary64

/-!
# Numbers of extended precision

Numbers above zero with a significand of sixty-four bits. Decimals are scaled by
powers of ten in this precision, one factor after another, on their way to and
from binary; each factor rounds once, to the even neighbour. The exponent has
no bounds.
-/

namespace SqlChain.Decimal

/-- The number `significand * 2 ^ scale`. -/
structure Extended where
  significand : Nat
  scale : Int
deriving DecidableEq, Repr

namespace Extended

/-- The nearest number to `num / den`. Rounding up may need a bit more. -/
def ofQuotient (num den : Nat) : Extended :=
  let q := Binary64.log2Quotient num den - 63
  let m :=
    if 0 ≤ q then roundDiv num (den * pow2 q.toNat) .toEven
    else roundDiv (num * pow2 (-q).toNat) den .toEven
  if m < pow2 64 then ⟨m, q⟩ else ⟨m / 2, q + 1⟩

/-- A natural above zero. -/
def ofNat (n : Nat) : Extended := ofQuotient n 1

/-- The number as a quotient of naturals. -/
def quotient (x : Extended) : Nat × Nat :=
  if 0 ≤ x.scale then (x.significand * pow2 x.scale.toNat, 1)
  else (x.significand, pow2 (-x.scale).toNat)

/-- The product, rounded. -/
def mul (x y : Extended) : Extended :=
  let p := ofNat (x.significand * y.significand)
  ⟨p.significand, p.scale + x.scale + y.scale⟩

/-- The nearest number to a power of ten. -/
def tenTo (e : Int) : Extended :=
  if 0 ≤ e then ofNat (pow10 e.toNat) else ofQuotient 1 (pow10 (-e).toNat)

/-- Whether one number is less than another. -/
def lt (x y : Extended) : Bool :=
  x.scale < y.scale || (x.scale == y.scale && x.significand < y.significand)

/-- The greatest natural that is not greater. -/
def floor (x : Extended) : Nat := x.quotient.1 / x.quotient.2

/-- Multiply by a number several times, rounding each time. -/
def times (factor : Extended) : Nat → Extended → Extended
  | 0, x => x
  | n + 1, x => times factor n (x.mul factor)

/-- Multiply by a power of ten: by hundreds of powers, then by tens, then one at
a time. -/
def scaleBy (e : Int) (x : Extended) : Extended :=
  let n := e.natAbs
  let unit : Int := if e < 0 then -1 else 1
  times (tenTo unit) (n % 10) (times (tenTo (10 * unit)) (n % 100 / 10)
    (times (tenTo (100 * unit)) (n / 100) x))

/-- The nearest binary number, an infinity past the largest one. -/
def toBinary64 (negative : Bool) (x : Extended) : Binary64 :=
  Binary64.ofQuotient negative x.quotient.1 x.quotient.2

/-- Multiply while the number passes a test; count by `step` how often. -/
def driven (test : Extended → Bool) (factor : Extended) (step : Int) :
    Nat → Extended × Int → Extended × Int
  | 0, p => p
  | fuel + 1, (x, e) =>
      if test x then driven test factor step fuel (x.mul factor, e + step) else (x, e)

/-- Scale the number into the range from `10 ^ 17` up to `10 ^ 19`. The second
component is the power of ten that was taken out. -/
def inDigitRange (x : Extended) : Extended × Int :=
  if !x.lt (tenTo 19) then
    driven (fun y => !y.lt (tenTo 19)) (tenTo (-1)) 1 20
      (driven (fun y => !y.lt (tenTo 29)) (tenTo (-10)) 10 20
        (driven (fun y => !y.lt (tenTo 119)) (tenTo (-100)) 100 20 (x, 0)))
  else
    driven (fun y => y.lt (tenTo 17)) (tenTo 1) (-1) 20
      (driven (fun y => y.lt (tenTo 7)) (tenTo 10) (-10) 20
        (driven (fun y => y.lt (tenTo (-97))) (tenTo 100) (-100) 20 (x, 0)))

end Extended

end SqlChain.Decimal
