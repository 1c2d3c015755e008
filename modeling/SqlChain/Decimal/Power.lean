/-!
# Powers

The powers of the two bases that numbers are written in.
-/

namespace SqlChain.Decimal

/-- A power of two. -/
def pow2 (n : Nat) : Nat := Nat.pow 2 n

/-- A power of ten. -/
def pow10 (n : Nat) : Nat := Nat.pow 10 n

end SqlChain.Decimal
