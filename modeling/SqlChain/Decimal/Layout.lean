import SqlChain.Decimal.Shortest

/-!
# Writing a floating-point number

Two notations write numbers: JSON, and the quoted form of messages. Both take
the shortest digits; they differ in where the positional form ends, in the
sign of a positive exponent, in what becomes of a tie, and in what they call
the words that are no finite number.
-/

namespace SqlChain.Decimal

/-- The decisions of a notation. -/
structure Layout where
  /-- Least decimal exponent that is written positionally. -/
  least : Int
  /-- Greatest decimal exponent that is written positionally. -/
  greatest : Int
  /-- Whether a positive exponent has a sign. -/
  plus : Bool
  tie : Tie

/-- Positional from `0.00001` up to below `1e+16`. -/
def Layout.json : Layout := ⟨-5, 15, true, .toEven⟩

/-- Positional from `0.0001` up to below `1e16`. -/
def Layout.debug : Layout := ⟨-4, 15, false, .up⟩

/-- Digits with the point after the first `whole` of them, zeros filled in on
either side so that a digit stands before and after it. -/
def positional (digits : List Char) (whole : Int) : List Char :=
  if whole ≤ 0 then '0' :: '.' :: List.replicate (-whole).toNat '0' ++ digits
  else if digits.length ≤ whole.toNat then
    digits ++ List.replicate (whole.toNat - digits.length) '0' ++ ['.', '0']
  else digits.take whole.toNat ++ '.' :: digits.drop whole.toNat

/-- One digit, the rest after a point if there are any, and the exponent. -/
def scientific (digits : List Char) (exponent : Int) (plus : Bool) : List Char :=
  let mantissa := match digits with
    | d :: e :: rest => d :: '.' :: e :: rest
    | short => short
  let sign := if exponent < 0 then ['-'] else if plus then ['+'] else []
  mantissa ++ 'e' :: sign ++ Nat.toDigits 10 exponent.natAbs

/-- The text of a finite number. -/
def Binary64.render (layout : Layout) (x : Binary64) : String :=
  let d := x.shortest layout.tie
  let digits := Nat.toDigits 10 d.digits
  let exponent := d.exponent + digits.length - 1
  let body :=
    if layout.least ≤ exponent ∧ exponent ≤ layout.greatest then positional digits (exponent + 1)
    else scientific digits exponent layout.plus
  String.ofList (if x.isNegative then '-' :: body else body)

/-- The text of any number in messages. -/
def Binary64.debug (x : Binary64) : String :=
  if x.isNaN then "NaN"
  else if x.isFinite then x.render .debug
  else if x.isNegative then "-inf" else "inf"

end SqlChain.Decimal
