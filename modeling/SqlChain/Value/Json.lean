import SqlChain.Json.Printer
import SqlChain.Serial
import SqlChain.Shape.Basic
import SqlChain.Value.Basic
import SqlChain.Word

/-!
# Values and JSON

Four passages join values and JSON. `toJson` writes a value for logs,
`present` hands it to a writer of any format, `ofJson` takes any JSON value as
data to be bound, and `read?` takes only JSON that a value could have been
written as. They disagree where they must: bytes are written as an array, and
`ofJson` binds an array as text while `read?` makes bytes of it again.
-/

namespace SqlChain.Value

open Decimal (Binary64 Number)

/-- The value in JSON. Bytes become an array, a float that is not finite null. -/
def toJson : Value → Json
  | .null => .null
  | .integer n => .int n.toInt
  | .real x => .real x
  | .text s => .text s
  | .blob bytes => .bytes bytes

/-- The value presented to a writer, under no tag. -/
def present : Value → Serial
  | .null => .unit
  | .integer n => .int n.toInt
  | .real x => .real x
  | .text s => .text s
  | .blob bytes => .sequence (bytes.map fun b => .int b.toNat)

/-- A JSON number as a value: an integer where one fits, else a float. -/
def ofNumber : Number → Value
  | .int n =>
      match Word.int64? n with
      | some i => .integer i
      | none => .real (.ofInt n)
  | .real x => .real x

/-- Any JSON value as data to bind. There are no container types to store, so
arrays and objects become their text. -/
def ofJson : Json → Value
  | .null => .null
  | .bool b => ofBool b
  | .number n => ofNumber n
  | .text s => .text s
  | .array items => .text (Json.print (.array items))
  | .object members => .text (Json.print (.object members))

/-- Read null. -/
def readNull? : Json → Option Value
  | .null => some .null
  | _ => none

/-- Read a byte. -/
def readByte? (j : Json) : Option UInt8 := (Shape.byte.read j).toOption

/-- Read a list of bytes. -/
def readBytes? : Json → Option (List UInt8)
  | .array items => items.mapM readByte?
  | _ => none

/-- Read a value that was written under no tag. The storage classes are tried in
their order, and the first that fits is taken. -/
def read? (j : Json) : Option Value :=
  readNull? j <|>
    (Shape.int64.read j).toOption.map .integer <|>
    (Shape.float.read j).toOption.map .real <|>
    (Shape.text.read j).toOption.map .text <|>
    (readBytes? j).map .blob

/-! ## One equation for each kind of JSON -/

theorem toOption_read_int64 (n : Int) : (Shape.int64.read (.int n)).toOption = Word.int64? n := by
  show ((Shape.readInt Word.minInt64 Word.maxInt64 "i64" (.int n)).map Int64.ofInt).toOption = _
  rw [Json.int, Shape.readInt, Word.int64?]
  split <;> rfl

theorem read?_null : read? .null = some .null := rfl

theorem read?_bool (b : Bool) : read? (.bool b) = none := rfl

/-- A number is read as an integer if it is one that fits, and else as a float. -/
theorem read?_number (n : Number) : read? (.number n) = some (ofNumber n) := by
  cases n with
  | real x => rfl
  | int n =>
      show ((Shape.int64.read (.int n)).toOption.map Value.integer <|> some (.real (.ofInt n))) = _
      rw [toOption_read_int64, ofNumber]
      cases Word.int64? n <;> rfl

theorem read?_text (s : String) : read? (.text s) = some (.text s) := rfl

theorem read?_array (items : List Json) :
    read? (.array items) = (readBytes? (.array items)).map .blob := rfl

theorem read?_object (members : List (String × Json)) : read? (.object members) = none := rfl

end SqlChain.Value
