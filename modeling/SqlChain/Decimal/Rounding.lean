/-!
# Rounding a quotient

Everything a number loses on its way into or out of binary is lost in one
place: the quotient of two naturals, rounded to the nearest natural. What a
half does is the caller's choice.
-/

namespace SqlChain.Decimal

/-- Where a half goes. -/
inductive Tie where
  | toEven
  | up
deriving DecidableEq, Repr

/-- The natural nearest to `num / den`. -/
def roundDiv (num den : Nat) (tie : Tie) : Nat :=
  let q := num / den
  let r := num % den
  if 2 * r < den then q
  else if den < 2 * r then q + 1
  else match tie with
    | .up => q + 1
    | .toEven => q + q % 2

end SqlChain.Decimal
