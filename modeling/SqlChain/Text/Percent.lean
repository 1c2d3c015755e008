import SqlChain.Text.Hex

/-!
# Percent signs

In an address a percent sign with two hexadecimal digits stands for the byte of
that value; one without stands for itself.
-/

namespace SqlChain.Text

/-- The bytes that a text with percent signs stands for. -/
def percentBytes : List UInt8 → List UInt8
  | [] => []
  | 0x25 :: a :: b :: rest =>
      match hexValue? (Char.ofNat a.toNat), hexValue? (Char.ofNat b.toNat) with
      | some x, some y => UInt8.ofNat (x * 16 + y) :: percentBytes rest
      | _, _ => 0x25 :: percentBytes (a :: b :: rest)
  | b :: rest => b :: percentBytes rest

/-- The items before the first that is a mark, and those after it. -/
def splitAtMark {α : Type} [DecidableEq α] (mark : α) (xs : List α) : List α × List α :=
  (xs.takeWhile (· ≠ mark), (xs.dropWhile (· ≠ mark)).drop 1)

end SqlChain.Text
