import SqlChain.Text.Padding
import SqlChain.Value.Basic

/-!
# Exact amounts

Decimal amounts have no storage class of their own. They are bound as text, so
that no place is lost.
-/

namespace SqlChain

/-- The amount `mantissa / 10 ^ places`. -/
structure Amount where
  mantissa : Int
  places : Nat
deriving DecidableEq, Repr

/-- The amount with all its places, trailing zeros kept. -/
def Amount.text (a : Amount) : String :=
  let unit := Decimal.pow10 a.places
  let fraction :=
    if a.places = 0 then "" else "." ++ Text.zeroPadded a.places (a.mantissa.natAbs % unit)
  (if a.mantissa < 0 then "-" else "") ++ toString (a.mantissa.natAbs / unit) ++ fraction

/-- An amount to bind. -/
def Value.ofAmount (a : Amount) : Value := .text a.text

end SqlChain
