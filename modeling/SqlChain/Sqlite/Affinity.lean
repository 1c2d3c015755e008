import SqlChain.Sqlite.Expression
import SqlChain.Sqlite.Numeral

/-!
# Affinities

A column prefers values of one type: a value that can be turned into one
without loss is, and any other is kept as it is. A cast turns a value into the
type in any case. A comparison prefers one type for both of its sides.
-/

namespace SqlChain.Sqlite

open Decimal (Binary64)

/-! ## Types -/

/-- Whether a text goes on with a word, in any case. -/
def goesOnWith (word : String) (cs : List Char) : Bool :=
  (cs.take word.length).map Char.toLower == word.toList

/-- The affinity of a type after the affinity found so far: the words in the type
decide, the first of a kind before later ones, and `INT` before all. -/
def affinityAfter : Affinity → List Char → Affinity
  | found, [] => found
  | found, c :: rest =>
      let here (word : String) : Bool := goesOnWith word (c :: rest)
      if here "int" then .integer
      else if here "char" || here "clob" || here "text" then affinityAfter .text rest
      else if here "blob" && (found = .numeric || found = .real) then affinityAfter .blob rest
      else if (here "real" || here "floa" || here "doub") && found = .numeric then
        affinityAfter .real rest
      else affinityAfter found rest

/-- The affinity of the type of a cast. -/
def Affinity.ofType (type : String) : Affinity := affinityAfter .numeric type.toList

/-! ## Conversions -/

namespace Datum

/-- The text of a number; what is no number stays. -/
def numberAsText : Datum → Datum
  | .value (.integer n) => .text (toString n.toInt)
  | .value (.real x) => .text (realText x)
  | d => d

/-- The number that a text is; what is no such text stays. -/
def textAsNumber (d : Datum) : Datum :=
  match d.textChars? with
  | some cs =>
      match numberOfText? cs with
      | some v => .value v
      | none => d
  | none => d

/-- The integer that a float is; what is no such float stays. -/
def realAsInteger : Datum → Datum
  | .value (.real x) =>
      match exactInteger? x with
      | some n => .integer n
      | none => .value (.real x)
  | d => d

/-- The float of an integer; what is no integer stays. -/
def integerAsReal : Datum → Datum
  | .value (.integer n) => .value (.real (.ofInt n.toInt))
  | d => d

/-- The bytes of a text or a blob as characters, one for each byte where they are
no text. Numbers are written out. -/
def chars (d : Datum) : List Char :=
  match d with
  | .value (.blob bytes) => ((Datum.ofTextBytes bytes).textChars?).getD []
  | d => (d.numberAsText.textChars?).getD []

/-- The bytes of a value as text. -/
def bytes (d : Datum) : List UInt8 :=
  match d with
  | .value (.blob bytes) => bytes
  | d => (d.numberAsText.textBytes?).getD []

/-- The number that a value counts as in arithmetic; null stays. A text counts as
the number at its front. -/
def asNumber (d : Datum) : Datum :=
  match d with
  | .value .null => d
  | .value (.integer _) => d
  | .value (.real _) => d
  | d =>
      let r := realOfText d.chars
      let i := integerOfText d.chars
      if !r.found || (r.whole && i.fits) then .integer i.value else .value (.real r.value)

/-- The number that a value is cast to. A small whole float read from a text is an
integer. -/
def toNumeric (d : Datum) : Datum :=
  match d with
  | .value (.real _) => d
  | d =>
      match d.asNumber with
      | .value (.real x) =>
          match smallInteger? x with
          | some n => .integer n
          | none => .value (.real x)
      | n => n

/-- The integer that a value counts as. -/
def asInteger : Datum → Int64
  | .value .null => 0
  | .value (.integer n) => n
  | .value (.real x) => integerOfReal x
  | d => (integerOfText d.chars).value

/-- The float that a value counts as. -/
def asReal : Datum → Binary64
  | .value .null => .ofInt 0
  | .value (.integer n) => .ofInt n.toInt
  | .value (.real x) => x
  | d => (realOfText d.chars).value

end Datum

/-- The value as a column of the affinity stores it. A column of floats makes
floats of integers, and keeps a whole float as an integer would be kept, so
that its zero has no sign. -/
def Affinity.store : Affinity → Datum → Datum
  | .blob, d => d
  | .text, d => d.numberAsText
  | .numeric, d => d.textAsNumber.realAsInteger
  | .integer, d => d.textAsNumber.realAsInteger
  | .real, d => d.textAsNumber.realAsInteger.integerAsReal

/-- The value as a cast makes it. -/
def Affinity.cast (a : Affinity) (d : Datum) : Datum :=
  match d, a with
  | .value .null, _ => d
  | d, .blob => .value (.blob d.bytes)
  | .value (.blob bytes), .text => .ofTextBytes bytes
  | d, .text => d.numberAsText
  | d, .numeric => d.toNumeric
  | d, .integer => .integer d.asInteger
  | d, .real => .value (.real d.asReal)

end SqlChain.Sqlite
