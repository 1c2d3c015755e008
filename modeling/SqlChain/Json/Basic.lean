import SqlChain.Decimal.Numeral
import SqlChain.Keyed

/-!
# JSON values

The values that rows, logs and configuration are exchanged in. Numbers keep
the difference between an integer and a float, objects keep the order of their
members.
-/

namespace SqlChain

open Decimal (Binary64 Number)

/-- A JSON value. -/
inductive Json where
  | null
  | bool (b : Bool)
  | number (n : Number)
  | text (s : String)
  | array (items : List Json)
  | object (members : List (String × Json))
deriving Repr, Inhabited

namespace Json

/-- An integer. -/
def int (n : Int) : Json := .number (.int n)

/-- A float; JSON has no word for the infinities and NaN, which become null. -/
def real (x : Binary64) : Json := if x.isFinite then .number (.real x) else .null

/-- An array of bytes, each as an integer. -/
def bytes (bs : List UInt8) : Json := .array (bs.map fun b => .int b.toNat)

/-- An object from members in writing order: a repeated name keeps its first
place and takes its last value. -/
def ofMembers (members : List (String × Json)) : Json := .object (Keyed.ofList members)

/-- The member of an object under a name. -/
def member? : Json → String → Option Json
  | .object members, name => Keyed.get? members name
  | _, _ => none

end Json

end SqlChain
