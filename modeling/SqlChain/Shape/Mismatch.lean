import SqlChain.Json.Printer
import SqlChain.Text.Listing
import SqlChain.Text.Quoted

/-!
# Why a JSON value does not have a shape

Each way in which reading a typed value from JSON can fail, and the words for
it. A type that is read in a way of its own may also refuse in words of its own.
-/

namespace SqlChain

/-- What stands in the way of reading a JSON value as a typed one. -/
inductive Mismatch where
  | missingField (name : String)
  | wrongType (got : Json) (wanted : String)
  | wrongValue (got : Json) (wanted : String)
  | wrongLength (length : Nat) (wanted : String)
  | unknownVariant (name : String) (variants : List String)
  | noStorageClass
  | other (text : String)
deriving Repr

namespace Mismatch

/-- What a value looks like from outside. -/
def sight : Json → String
  | .null => "null"
  | .bool true => "boolean `true`"
  | .bool false => "boolean `false`"
  | .number (.int n) => "integer `" ++ toString n ++ "`"
  | .number (.real x) => "floating point `" ++ x.render .json ++ "`"
  | .text s => "string " ++ Text.quoted s
  | .array _ => "sequence"
  | .object _ => "map"

/-- The names that would have been right. -/
def oneOf : List String → String
  | [] => "there are no variants"
  | [a] => "expected `" ++ a ++ "`"
  | [a, b] => "expected `" ++ a ++ "` or `" ++ b ++ "`"
  | names => "expected one of " ++ Text.listing (names.map fun n => "`" ++ n ++ "`")

/-- The words for a mismatch. -/
def message : Mismatch → String
  | .missingField name => "missing field `" ++ name ++ "`"
  | .wrongType got wanted => "invalid type: " ++ sight got ++ ", expected " ++ wanted
  | .wrongValue got wanted => "invalid value: " ++ sight got ++ ", expected " ++ wanted
  | .wrongLength n wanted => "invalid length " ++ toString n ++ ", expected " ++ wanted
  | .unknownVariant name variants => "unknown variant `" ++ name ++ "`, " ++ oneOf variants
  | .noStorageClass => "data did not match any variant of untagged enum Value"
  | .other text => text

end Mismatch

end SqlChain
