import SqlChain.Text.Hex
import SqlChain.Value.Basic

/-!
# Universally unique identifiers

Sixteen bytes, bound as lower-case hexadecimal text in five groups.
-/

namespace SqlChain

/-- The groups of 4, 2, 2, 2 and 6 bytes, separated by hyphens. -/
def uuidText (bytes : List UInt8) : String :=
  let group (start count : Nat) := Text.hexBytes ((bytes.drop start).take count)
  group 0 4 ++ "-" ++ group 4 2 ++ "-" ++ group 6 2 ++ "-" ++ group 8 2 ++ "-" ++ group 10 6

/-- An identifier to bind. -/
def Value.ofUuid (bytes : List UInt8) : Value := .text (uuidText bytes)

end SqlChain
