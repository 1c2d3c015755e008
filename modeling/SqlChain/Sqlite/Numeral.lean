import SqlChain.Decimal.Extended
import SqlChain.Sqlite.Token
import SqlChain.Value.Basic

/-!
# Numbers as text

How the engine reads a number from the front of a text and how it writes one.
Reading takes as many digits as fit a word and scales them in extended
precision; writing keeps fifteen digits. A text may have blanks around its
number, and what follows the number is ignored where only the number is asked
for.
-/

namespace SqlChain.Sqlite

open Decimal (Binary64 Extended)

/-! ## Reading -/

/-- The value of decimal digits. -/
def decimalValue (digits : List Char) : Nat := digits.foldl (fun n c => n * 10 + (c.toNat - 48)) 0

/-- Whether a numeral is in hexadecimal notation. -/
def isHexNumeral : List Char → Bool
  | '0' :: x :: _ => x = 'x' || x = 'X'
  | _ => false

/-- A hexadecimal numeral as a word; `none` if it has more bits. -/
def hexInteger? (source : List Char) : Option Int64 :=
  let digits := (source.drop 2).dropWhile (· = '0')
  if digits.length ≤ 16 then
    (Text.ofHex? digits).map fun n => UInt64.toInt64 (UInt64.ofNat n)
  else none

/-- The significand beyond which further digits are not taken. -/
def significandLimit : Nat := 1844674407370955160

/-- Take the digits of the whole part: the significand, and how many digits were
not taken. -/
def takeWhole (significand : Nat) : List Char → Nat × Nat
  | [] => (significand, 0)
  | c :: rest =>
      let significand := significand * 10 + (c.toNat - 48)
      if significandLimit ≤ significand then (significand, rest.length)
      else takeWhole significand rest

/-- Take the digits of the fraction: the significand, and how many digits were
taken. -/
def takeFraction (significand taken : Nat) : List Char → Nat × Nat
  | [] => (significand, taken)
  | c :: rest =>
      if significand < significandLimit then
        takeFraction (significand * 10 + (c.toNat - 48)) (taken + 1) rest
      else takeFraction significand taken rest

/-- Move a power of ten into the significand as far as it has room. -/
def balanced : Nat → Nat → Int → Nat × Int
  | 0, s, e => (s, e)
  | fuel + 1, s, e =>
      if 0 < e ∧ s < 1844674407370955161 then balanced fuel (s * 10) (e - 1)
      else if e < 0 ∧ s % 10 = 0 then balanced fuel (s / 10) (e + 1)
      else (s, e)

/-- The float that stands for a significand times a power of ten. -/
def realOf (negative : Bool) (significand : Nat) (exponent : Int) : Binary64 :=
  if significand = 0 then .ofParts negative 0
  else
    let (s, e) := balanced 40 significand exponent
    ((Extended.ofNat s).scaleBy e).toBinary64 negative

/-- A number read from the front of a text. -/
structure NumericText where
  value : Binary64
  /-- Whether digits were found. -/
  found : Bool
  /-- Whether the number is whole: digits without a point or an exponent. -/
  whole : Bool
  /-- Whether nothing but blanks follows. -/
  complete : Bool

/-- The exponent at the front of a text, and the rest after it. Exponents of many
digits stop growing. -/
def exponentOf? : List Char → Option (Int × List Char)
  | e :: rest =>
      if e = 'e' ∨ e = 'E' then
        let (sign, rest) : Int × List Char := match rest with
          | '-' :: rest => (-1, rest)
          | '+' :: rest => (1, rest)
          | rest => (1, rest)
        let digits := rest.takeWhile Char.isDigit
        let n : Nat :=
          digits.foldl (fun n c => if n < 10000 then n * 10 + (c.toNat - 48) else 10000) 0
        if digits.isEmpty then none else some (sign * n, rest.drop digits.length)
      else none
  | [] => none

/-- Read a number from the front of a text. -/
def realOfText (text : List Char) : NumericText :=
  let cs := text.dropWhile isWideSpace
  let (negative, cs) : Bool × List Char := match cs with
    | '-' :: rest => (true, rest)
    | '+' :: rest => (false, rest)
    | rest => (false, rest)
  let whole := cs.takeWhile Char.isDigit
  let afterWhole := cs.drop whole.length
  let fraction := match afterWhole with
    | '.' :: rest => rest.takeWhile Char.isDigit
    | _ => []
  let pointed := afterWhole.head? = some '.'
  let afterFraction := if pointed then afterWhole.drop (fraction.length + 1) else afterWhole
  let (exponent, marked, after) : Int × Bool × List Char := match exponentOf? afterFraction with
    | some (e, rest) => (e, true, rest)
    | none => (0, false, afterFraction)
  let (s, lost) := takeWhole 0 whole
  let (s, places) := takeFraction s 0 fraction
  { value := realOf negative s (exponent + (lost : Int) - (places : Int))
    found := !whole.isEmpty || !fraction.isEmpty
    whole := !pointed && !marked
    complete := after.all isWideSpace }

/-- An integer read from the front of a text. -/
structure IntegerText where
  value : Int64
  /-- Whether the digits fit a word. -/
  fits : Bool
  /-- Whether they do and are all there is. -/
  exact : Bool

/-- Read an integer from the front of a text. One that fits no word is the
nearest one that does. -/
def integerOfText (text : List Char) : IntegerText :=
  let cs := text.dropWhile isWideSpace
  let (negative, cs) : Bool × List Char := match cs with
    | '-' :: rest => (true, rest)
    | '+' :: rest => (false, rest)
    | rest => (false, rest)
  let digits := cs.takeWhile Char.isDigit
  let magnitude : Int := decimalValue digits
  let n := if negative then -magnitude else magnitude
  let fits : Bool := Word.minInt64 ≤ n && n ≤ Word.maxInt64
  let clipped := if n < Word.minInt64 then Word.minInt64 else min n Word.maxInt64
  { value := Int64.ofInt clipped
    fits := fits
    exact := fits && !digits.isEmpty && (cs.drop digits.length).all isWideSpace }

/-! ## Floats and integers -/

/-- The integer of a float: its whole part, or the nearest word. -/
def integerOfReal (x : Binary64) : Int64 :=
  let bound := if x.isNegative then Word.minInt64 else Word.maxInt64
  if !x.isFinite then Int64.ofInt bound
  else
    let (a, b) := x.magnitude
    let n : Int := (a / b : Nat)
    let n := if x.isNegative then -n else n
    Int64.ofInt (max Word.minInt64 (min n Word.maxInt64))

/-- The integer that a float is, but for the least and the greatest one. -/
def exactInteger? (x : Binary64) : Option Int64 :=
  if !x.isFinite then none
  else
    let (a, b) := x.magnitude
    let n : Int := (a / b : Nat)
    let n := if x.isNegative then -n else n
    if a % b = 0 ∧ Word.minInt64 < n ∧ n < Word.maxInt64 then some (Int64.ofInt n) else none

/-- The integer that a float is, if its magnitude is below `2 ^ 51`. -/
def smallInteger? (x : Binary64) : Option Int64 :=
  (exactInteger? x).filter fun n => n.toInt.natAbs < Decimal.pow2 51

/-- The number that a text is, if all of it is one. Digits that fit a word are an
integer. -/
def numberOfText? (text : List Char) : Option Value :=
  let r := realOfText text
  if r.found && r.complete then
    let i := integerOfText text
    if r.whole && i.exact then some (.integer i.value) else some (.real r.value)
  else none

/-! ## Writing -/

/-- Round digits up in their last place; one more digit may come in front. -/
def roundUpDigits (digits : Nat) (count : Nat) : Nat × Bool :=
  if digits + 1 < Decimal.pow10 count then (digits + 1, false) else (digits + 1, true)

/-- Fifteen or fewer significant digits of a finite number's magnitude, without
zeros at the end, and the place of the point: the number of digits before it. -/
def significantDigits (x : Binary64) : List Char × Int :=
  if x.isZero then (['0'], 1)
  else
    let (num, den) := x.magnitude
    let (y, e) := (Extended.ofQuotient num den).inDigitRange
    let all := Nat.toDigits 10 y.floor
    let point : Int := all.length + e
    let (digits, point) : List Char × Int :=
      if all.length ≤ 15 then (all, point)
      else
        let kept := decimalValue (all.take 15)
        if (all[15]?.getD '0') < '5' then (all.take 15, point)
        else
          let (n, longer) := roundUpDigits kept 15
          (Nat.toDigits 10 n, if longer then point + 1 else point)
    ((digits.reverse.dropWhile (· = '0')).reverse, point)

/-- The text of a float: fifteen significant digits at most, positional from
`0.0001` up to below `1e+15`, always with a fraction. -/
def realText (x : Binary64) : String :=
  if x.isNaN then "NaN"
  else if !x.isFinite then if x.isNegative then "-Inf" else "Inf"
  else
    let (digits, point) := significantDigits x
    let exponent := point - 1
    let body : List Char :=
      if exponent < -4 ∨ 14 < exponent then
        let fraction := if digits.length ≤ 1 then ['0'] else digits.drop 1
        let n := Nat.toDigits 10 exponent.natAbs
        let n := if n.length < 2 then '0' :: n else n
        digits.take 1 ++ '.' :: fraction ++ 'e' :: (if exponent < 0 then '-' else '+') :: n
      else if point ≤ 0 then
        '0' :: '.' :: List.replicate (-point).toNat '0' ++ digits
      else if digits.length ≤ point.toNat then
        digits ++ List.replicate (point.toNat - digits.length) '0' ++ ['.', '0']
      else digits.take point.toNat ++ '.' :: digits.drop point.toNat
    String.ofList (if x.isNegative && !x.isZero then '-' :: body else body)

end SqlChain.Sqlite
