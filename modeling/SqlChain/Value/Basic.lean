import SqlChain.Json.Basic
import SqlChain.Decimal.Layout
import SqlChain.Text.Listing
import SqlChain.Text.Quoted
import SqlChain.Word

/-!
# Values bound to placeholders

A value has one of SQLite's storage classes. That is all a client accepts, so
richer data becomes text or bytes before it is bound.
-/

namespace SqlChain

open Decimal (Binary64)

/-- A value for a placeholder. -/
inductive Value where
  | null
  | integer (n : Int64)
  | real (x : Binary64)
  | text (s : String)
  | blob (bytes : List UInt8)
deriving DecidableEq, Repr, Inhabited

namespace Value

/-- Truth values are stored as one and zero. -/
def ofBool (b : Bool) : Value := .integer (if b then 1 else 0)

/-- An absent value is null. -/
def ofOption : Option Value → Value
  | some v => v
  | none => .null

/-- A count that may exceed the signed range; it stops at the largest integer. -/
def ofCount (n : UInt64) : Value := .integer (Int64.ofInt (min n.toNat Word.maxInt64))

/-- Whether two values are the same value to a program that compares floats as
numbers: the two zeros are, a NaN is not even the same as itself. -/
def alike : Value → Value → Bool
  | .real x, .real y => x.alike y
  | v, w => v == w

/-- The value as messages show it. -/
def debug : Value → String
  | .null => "Null"
  | .integer n => "Integer(" ++ toString n.toInt ++ ")"
  | .real x => "Real(" ++ x.debug ++ ")"
  | .text s => "Text(" ++ Text.quoted s ++ ")"
  | .blob bytes => "Blob([" ++ Text.listing (bytes.map fun b => toString b.toNat) ++ "])"

end Value

end SqlChain
