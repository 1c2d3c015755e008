/-!
# The ranges of machine words

The integers that fit words of a fixed width, signed or not.
-/

namespace SqlChain.Word

/-- The least integer of 64 bits with a sign. -/
def minInt64 : Int := -9223372036854775808

/-- The greatest integer of 64 bits with a sign. -/
def maxInt64 : Int := 9223372036854775807

/-- The greatest integer of 64 bits without a sign. -/
def maxUInt64 : Int := 18446744073709551615

/-- The greatest integer of eight bits without a sign. -/
def maxByte : Int := 255

/-- The integer as a signed word, if it fits one. -/
def int64? (n : Int) : Option Int64 :=
  if minInt64 ≤ n ∧ n ≤ maxInt64 then some (Int64.ofInt n) else none

end SqlChain.Word
