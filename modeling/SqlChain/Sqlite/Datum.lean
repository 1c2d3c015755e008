import SqlChain.Error.Database
import SqlChain.Value.Basic

/-!
# Stored and computed values

What the engine keeps in a cell or computes: a value of a storage class. Text
made of bytes may be no text at all, and only reading it shows that, so such
bytes are kept as they are.
-/

namespace SqlChain.Sqlite

/-- A value in the engine. -/
inductive Datum where
  | value (v : Value)
  /-- Bytes that count as text and are not. -/
  | rawText (bytes : List UInt8)
deriving DecidableEq, Repr

namespace Datum

/-- The absent value. -/
def null : Datum := .value .null

/-- An integer. -/
def integer (n : Int64) : Datum := .value (.integer n)

/-- A text. -/
def text (s : String) : Datum := .value (.text s)

/-- Bytes as text. -/
def ofTextBytes (bytes : List UInt8) : Datum :=
  match Text.decodeUtf8 bytes with
  | .ok s => .text s
  | .error _ => .rawText bytes

/-- A truth value, `none` for unknown. -/
def ofTruth : Option Bool → Datum
  | none => .null
  | some b => .value (.ofBool b)

/-- Whether the value is absent. -/
def isNull (d : Datum) : Bool := d == .null

/-- The characters of a text, one for each byte where the text is broken; `none`
for what is no text. -/
def textChars? : Datum → Option (List Char)
  | .value (.text s) => some s.toList
  | .rawText bytes => some (bytes.map fun b => Char.ofNat b.toNat)
  | _ => none

/-- The bytes of a text. -/
def textBytes? : Datum → Option (List UInt8)
  | .value (.text s) => some (Text.encodeUtf8 s)
  | .rawText bytes => some bytes
  | _ => none

end Datum

end SqlChain.Sqlite
