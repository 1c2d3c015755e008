import SqlChain.Sqlite.Affinity

/-!
# Comparing values

Values are ordered by storage class first: null, then numbers, then text, then
bytes. Integers and floats are compared as numbers, exactly; texts by their
bytes, after a collation has made alike what it takes for the same. A
comparison with null is unknown, and unknown goes through `AND` and `OR` until
something decides it; a row is matched only by what is certainly true. `IS`
takes null for a value like any other.
-/

namespace SqlChain.Sqlite

open Decimal (Binary64)

/-- A truth value, `none` for unknown. -/
abbrev Truth := Option Bool

namespace Truth

/-- False decides a conjunction. -/
def and : Truth → Truth → Truth
  | some false, _ => some false
  | _, some false => some false
  | some true, some true => some true
  | _, _ => none

/-- True decides a disjunction. -/
def or : Truth → Truth → Truth
  | some true, _ => some true
  | _, some true => some true
  | some false, some false => some false
  | _, _ => none

/-- What is unknown stays unknown. -/
def not : Truth → Truth := Option.map Bool.not

/-- The conjunction of a list. -/
def all (ts : List Truth) : Truth := ts.foldr and (some true)

/-- The disjunction of a list. -/
def any (ts : List Truth) : Truth := ts.foldr or (some false)

end Truth

/-! ## The order of values -/

/-- The place of a storage class in the order. -/
def classRank : Datum → Nat
  | .value .null => 0
  | .value (.integer _) => 1
  | .value (.real _) => 1
  | .value (.text _) => 2
  | .rawText _ => 2
  | .value (.blob _) => 3

/-- The order of byte sequences: by the first byte that differs. -/
def compareBytes : List UInt8 → List UInt8 → Ordering
  | [], [] => .eq
  | [], _ :: _ => .lt
  | _ :: _, [] => .gt
  | a :: as, b :: bs => (compare a.toNat b.toNat).then (compareBytes as bs)

/-- The order of texts: by the first character that differs, which is also the
order of their UTF-8 bytes. -/
def compareChars : List Char → List Char → Ordering
  | [], [] => .eq
  | [], _ :: _ => .lt
  | _ :: _, [] => .gt
  | a :: as, b :: bs => (compare a.toNat b.toNat).then (compareChars as bs)

/-- The part of a text that counts. -/
def Collation.key : Collation → List Char → List Char
  | .binary, cs => cs
  | .nocase, cs => cs.map Char.toLower
  | .rtrim, cs => (cs.reverse.dropWhile (· = ' ')).reverse

/-- The collation of a name. -/
def Collation.ofName? (name : String) : Option Collation :=
  match String.ofList (name.toList.map Char.toUpper) with
  | "BINARY" => some .binary
  | "NOCASE" => some .nocase
  | "RTRIM" => some .rtrim
  | _ => none

/-- The order of values under a collation. -/
def compareData (collation : Collation) : Datum → Datum → Ordering
  | .value (.integer a), .value (.integer b) => compare a.toInt b.toInt
  | .value (.integer a), .value (.real y) => (y.compareInt a.toInt).swap
  | .value (.real x), .value (.integer b) => x.compareInt b.toInt
  | .value (.real x), .value (.real y) => compare x.rank y.rank
  | .value (.text s), .value (.text t) =>
      compareChars (collation.key s.toList) (collation.key t.toList)
  | .value (.blob s), .value (.blob t) => compareBytes s t
  | d, e =>
      match d.textBytes?, e.textBytes? with
      | some s, some t => compareBytes s t
      | _, _ => compare (classRank d) (classRank e)

/-! ## Comparisons -/

/-- The values of two sides as a comparison takes them, given the affinities of the
sides, if they have any: texts beside numbers become numbers if one side prefers
numbers, and numbers beside texts become texts if one side prefers texts and the
other nothing. -/
def aligned (left right : Option Affinity) (d e : Datum) : Datum × Datum :=
  let numeric := left.any Affinity.isNumeric || right.any Affinity.isNumeric
  let textual := match left, right with
    | some a, none => a = .text
    | none, some b => b = .text
    | _, _ => false
  if numeric then (d.textAsNumber, e.textAsNumber)
  else if textual && (d.textBytes?.isSome || e.textBytes?.isSome) then
    (d.numberAsText, e.numberAsText)
  else (d, e)

/-- A test of the order of two values that are not null. -/
def known (test : Ordering → Bool) (collation : Collation) (d e : Datum) : Truth :=
  if d.isNull || e.isNull then none else some (test (compareData collation d e))

/-- The truth of a comparison. -/
def Comparison.truth (c : Comparison) (collation : Collation) (d e : Datum) : Truth :=
  match c with
  | .eq => known (· == .eq) collation d e
  | .ne => known (· != .eq) collation d e
  | .lt => known (· == .lt) collation d e
  | .le => known (· != .gt) collation d e
  | .gt => known (· == .gt) collation d e
  | .ge => known (· != .lt) collation d e
  | .is => some (compareData collation d e == .eq)
  | .isNot => some (compareData collation d e != .eq)

/-- Whether a value counts as true: its number is not zero. -/
def Datum.truth (d : Datum) : Truth :=
  match d.asNumber with
  | .value (.integer n) => some (n != 0)
  | .value (.real x) => some (!x.isZero)
  | _ => none

end SqlChain.Sqlite
