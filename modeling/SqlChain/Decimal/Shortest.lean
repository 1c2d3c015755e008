import SqlChain.Decimal.Binary64

/-!
# The fewest decimal digits that read back

Among the decimals that round to a given binary number, the shortest one is
its text, and of two equally short ones the nearer. For each count of digits
the two neighbours of the number on that decimal grid are tested: if any point
of the grid rounds to the number, so does one of the two.
-/

namespace SqlChain.Decimal

/-- The decimal `digits * 10 ^ exponent`. -/
structure Digits where
  digits : Nat
  exponent : Int
deriving DecidableEq, Repr

/-- The number of decimal digits of a natural; one for zero. -/
def digitCount (n : Nat) : Nat := (Nat.toDigits 10 n).length

/-- The greatest `e` with `10 ^ e ≤ num / den`, for a quotient above zero. -/
def log10Quotient (num den : Nat) : Int :=
  if den ≤ num then (digitCount (num / den) : Int) - 1
  else
    let n := digitCount (den / num)
    if den ≤ num * pow10 (n - 1) then 1 - (n : Int) else -(n : Int)

/-- The interval of magnitudes that round to a number, all in units of
`2 ^ scale`: the number itself and its two ends. -/
structure RoundingInterval where
  value : Nat
  low : Nat
  high : Nat
  scale : Int
  closed : Bool

/-- The ends lie half-way to the neighbours, and belong to the interval if the
significand is even. Below a power of two the neighbour is nearer. -/
def Binary64.interval (x : Binary64) : RoundingInterval :=
  let m := x.significand
  { value := 4 * m
    low := if x.fraction = 0 ∧ 1 < x.exponentField then 4 * m - 1 else 4 * m - 2
    high := 4 * m + 2
    scale := x.scale - 2
    closed := m % 2 == 0 }

/-- `n * 2 ^ b / 10 ^ k` as a quotient of naturals. -/
def onGrid (n : Nat) (b k : Int) : Nat × Nat :=
  (n * pow2 b.toNat * pow10 (-k).toNat, pow2 (-b).toNat * pow10 k.toNat)

/-- Whether `d * 10 ^ k` rounds to the number of the interval. -/
def RoundingInterval.holds (i : RoundingInterval) (k : Int) (d : Nat) : Bool :=
  let (lowNum, den) := onGrid i.low i.scale k
  let (highNum, _) := onGrid i.high i.scale k
  if i.closed then lowNum ≤ d * den && d * den ≤ highNum
  else lowNum < d * den && d * den < highNum

/-- The multiple of `10 ^ k` that is the number's text on that grid, if one of
the two next to the number rounds to it. -/
def RoundingInterval.onGrid? (i : RoundingInterval) (tie : Tie) (k : Int) : Option Nat :=
  let (num, den) := onGrid i.value i.scale k
  let nearest := roundDiv num den tie
  let below := num / den
  if i.holds k nearest then some nearest
  else if i.holds k below then some below
  else if i.holds k (below + 1) then some (below + 1)
  else none

/-- Try grids of more and more digits. -/
def RoundingInterval.search (i : RoundingInterval) (tie : Tie) (top : Int) :
    Nat → Nat → Digits
  | 0, _ => ⟨0, 0⟩
  | fuel + 1, count =>
      let k := top - count
      match i.onGrid? tie k with
      | some d => ⟨d, k⟩
      | none => i.search tie top fuel (count + 1)

/-- Take the zeros at the end of the digits into the exponent. -/
def Digits.trimmed : Nat → Digits → Digits
  | 0, d => d
  | fuel + 1, d =>
      if d.digits % 10 = 0 ∧ d.digits ≠ 0 then trimmed fuel ⟨d.digits / 10, d.exponent + 1⟩
      else d

/-- The shortest decimal of a finite number's magnitude. Seventeen digits are
always enough. -/
def Binary64.shortest (x : Binary64) (tie : Tie) : Digits :=
  if x.isZero then ⟨0, 0⟩
  else
    let (num, den) := x.magnitude
    (x.interval.search tie (log10Quotient num den) 18 0).trimmed 18

end SqlChain.Decimal
