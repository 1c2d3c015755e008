/-!
# Zero padding
-/

namespace SqlChain.Text

/-- The decimal digits of a number, zeros filled in front up to a width. -/
def zeroPadded (width n : Nat) : String :=
  let digits := Nat.toDigits 10 n
  String.ofList (List.replicate (width - digits.length) '0' ++ digits)

end SqlChain.Text
