import SqlChain.Sqlite.Arithmetic
import SqlChain.Sqlite.Compare
import SqlChain.Sqlite.Pattern
import SqlChain.Sqlite.Table

/-!
# Evaluating expressions

The value of an expression in a row, or over a group of rows. A comparison takes
the affinities of its sides from what they are, and their collation from the
first side that names one. Null goes through most operations.
-/

namespace SqlChain.Sqlite

/-- An expression whose names have been looked up. -/
abbrev Term := Expression Place

/-- What an expression is evaluated against: a table, the parameters, the row at
hand if there is one, and the rows of its group. -/
structure Situation where
  table : Table
  parameters : List Datum := []
  row : Option StoredRow := none
  group : List StoredRow := []

namespace Situation

/-- The value at a place of the row. -/
def place (s : Situation) : Place → Datum
  | .column i => ((s.row.bind fun row => row.cells[i]?)).getD .null
  | .rowid => (s.row.map fun row => Datum.integer row.rowid).getD .null

/-- The value of a parameter; one that is not there is null. -/
def parameter (s : Situation) (n : Nat) : Datum := (s.parameters[n - 1]?).getD .null

end Situation

/-! ## What expressions are -/

/-- The affinity of an expression, if it has one. -/
def affinityOf (t : Table) : Term → Option Affinity
  | .name (.column i) => (t.columns[i]?).map Column.affinity
  | .name .rowid => some .integer
  | .apply (.cast a) _ => some a
  | .apply (.collate _) [x] => affinityOf t x
  | _ => none

mutual

/-- The collation that an expression names, if it names one. -/
def collationOf {ν : Type} : Expression ν → Option String
  | .apply (.collate name) _ => some name
  | .apply _ xs => collationOfAll xs
  | _ => none

/-- The first collation that several expressions name. -/
def collationOfAll {ν : Type} : List (Expression ν) → Option String
  | [] => none
  | x :: xs => (collationOf x).or (collationOfAll xs)

end

/-- The collation to compare expressions by. -/
def comparedBy {ν : Type} (xs : List (Expression ν)) : Collation :=
  ((collationOfAll xs).bind Collation.ofName?).getD .binary

/-! ## Operations -/

/-- The truth of a comparison of two expressions with their values. -/
def comparison (t : Table) (c : Comparison) (x y : Term) (d e : Datum) : Truth :=
  let (d, e) := aligned (affinityOf t x) (affinityOf t y) d e
  c.truth (comparedBy [x, y]) d e

/-- Whether a value is among others: unknown if it or one of them is null and
nothing matches. -/
def membership (t : Table) (x : Term) (d : Datum) (items : List Datum) : Truth :=
  Truth.any (items.map fun e =>
    let (d, e) := aligned (affinityOf t x) none d e
    Comparison.eq.truth (comparedBy [x]) d e)

/-- The greatest number of bytes of a pattern. -/
def maxPattern : Nat := 50000

/-- Whether a value matches a pattern. The escape has to be one character. -/
def matching (style : PatternStyle) (d pattern : Datum) (escape : Option Datum) :
    Except EngineError Truth := do
  if maxPattern < pattern.bytes.length then throw .longPattern
  let escape ← match escape with
    | none => pure none
    | some e =>
        if e.isNull then return none
        match e.chars.takeWhile (· ≠ '\x00') with
        | [c] => pure (some c)
        | _ => throw .longEscape
  if d.isNull || pattern.isNull then return none
  return some (style.test escape pattern.chars d.chars)

/-- Two values as one text. -/
def concatenated (d e : Datum) : Datum :=
  if d.isNull || e.isNull then .null else .ofTextBytes (d.bytes ++ e.bytes)

/-- The branch of a case that applies, over conditions and values in turn. -/
def branchOf (holds : Term → Datum → Bool) (alternative : Bool) :
    List Term → List Datum → Datum
  | x :: _ :: xs, d :: e :: ds => if holds x d then e else branchOf holds alternative xs ds
  | [_], [d] => if alternative then d else .null
  | _, _ => .null

/-- The least or greatest of values by a collation; the first of equal ones. -/
def extreme (wanted : Ordering) (collation : Collation) : List Datum → Datum
  | [] => .null
  | d :: ds =>
      ds.foldl (fun best e => if compareData collation e best == wanted then e else best) d

/-- The least of values by a collation; the last of equal ones. -/
def lastLeast (collation : Collation) (ds : List Datum) : Datum :=
  extreme .lt collation ds.reverse

/-- A byte with an ASCII letter in lower case. -/
def lowerByte (b : UInt8) : UInt8 := if 0x41 ≤ b && b ≤ 0x5A then b + 0x20 else b

/-- A byte with an ASCII letter in upper case. -/
def upperByte (b : UInt8) : UInt8 := if 0x61 ≤ b && b ≤ 0x7A then b - 0x20 else b

/-- The class of a value in words. -/
def className : Datum → String
  | .value .null => "null"
  | .value (.integer _) => "integer"
  | .value (.real _) => "real"
  | .value (.text _) => "text"
  | .rawText _ => "text"
  | .value (.blob _) => "blob"

/-- The value of a function. -/
def Function.apply (f : Function) (collation : Collation) (ds : List Datum) :
    Except EngineError Datum :=
  match f, ds with
  | .abs, [d] =>
      match d with
      | .value .null => .ok .null
      | .value (.integer n) =>
          if n.toInt = Word.minInt64 then .error .overflow
          else .ok (.integer (if n < 0 then -n else n))
      | d =>
          let x := d.asReal
          .ok (.value (.real (if x.isNegative && !x.isZero then x.neg else x)))
  | .coalesce, ds => .ok ((ds.find? fun d => !d.isNull).getD .null)
  | .hex, [d] =>
      .ok (.text (String.ofList ((Text.hexBytes d.bytes).toList.map Char.toUpper)))
  | .length, [d] =>
      match d with
      | .value .null => .ok .null
      | .value (.blob bytes) => .ok (.integer (Int64.ofNat bytes.length))
      | d => .ok (.integer (Int64.ofNat (d.chars.takeWhile (· ≠ '\x00')).length))
  | .lower, [d] => .ok (cased lowerByte d)
  | .upper, [d] => .ok (cased upperByte d)
  | .greatest, ds => .ok (if ds.any Datum.isNull then .null else extreme .gt collation ds)
  | .least, ds => .ok (if ds.any Datum.isNull then .null else lastLeast collation ds)
  | .nullif, [d, e] => .ok (if compareData collation d e == .eq then .null else d)
  | .typeof, [d] => .ok (.text (className d))
  | _, _ => .ok .null
where
  /-- A text with its letters changed. -/
  cased (change : UInt8 → UInt8) (d : Datum) : Datum :=
    if d.isNull then d else .ofTextBytes (d.bytes.map change)

/-- The value of an operation on expressions with their values. -/
def Operation.value (t : Table) (op : Operation) (xs : List Term) (ds : List Datum) :
    Except EngineError Datum :=
  let truth (b : Truth) : Except EngineError Datum := .ok (.ofTruth b)
  let turned (negated : Bool) (b : Truth) : Truth := if negated then b.not else b
  match op, xs, ds with
  | .not, _, [d] => truth d.truth.not
  | .and, _, [d, e] => truth (d.truth.and e.truth)
  | .or, _, [d, e] => truth (d.truth.or e.truth)
  | .negate, _, [d] => .ok (Arithmetic.sub.apply (.integer 0) d)
  | .plus, _, [d] => .ok d
  | .complement, _, [d] =>
      .ok (if d.isNull then d else .integer (Int64.ofInt (-1 - d.asInteger.toInt)))
  | .compare c, [x, y], [d, e] => truth (comparison t c x y d e)
  | .isNull, _, [d] => truth (some d.isNull)
  | .notNull, _, [d] => truth (some !d.isNull)
  | .isTruth wanted negated, _, [d] => truth (some ((d.truth == some wanted) != negated))
  | .between negated, [x, y, z], [d, e, f] =>
      truth (turned negated ((comparison t .ge x y d e).and (comparison t .le x z d f)))
  | .isIn negated, x :: _, d :: items => truth (turned negated (membership t x d items))
  | .matches style negated, _, d :: pattern :: escape => do
      return .ofTruth (turned negated (← matching style d pattern escape.head?))
  | .arithmetic a, _, [d, e] => .ok (a.apply d e)
  | .concat, _, [d, e] => .ok (concatenated d e)
  | .case true alternative, x :: xs, d :: ds =>
      .ok (branchOf (fun y e => comparison t .eq x y d e == some true) alternative xs ds)
  | .case false alternative, xs, ds =>
      .ok (branchOf (fun _ e => e.truth == some true) alternative xs ds)
  | .cast a, _, [d] => .ok (a.cast d)
  | .fixed b, _, _ => truth (some b)
  | .collate _, _, [d] => .ok d
  | .function f, xs, ds => f.apply (comparedBy xs) ds
  | .largeNumeral source, _, _ => .ok (.value (.real (realOfText source.toList).value))
  | .omitted what, _, _ => .error (.unsupported what)
  | .call name _, _, _ => .error (.unusableFunction name)
  | _, _, _ => .ok .null

/-! ## Summaries -/

/-- The values without the repetitions of earlier ones. -/
def withoutRepetitions (collation : Collation) : List Datum → List Datum → List Datum
  | _, [] => []
  | seen, d :: ds =>
      if seen.any fun e => compareData collation d e == .eq then
        withoutRepetitions collation seen ds
      else d :: withoutRepetitions collation (d :: seen) ds

/-- A finite number in units of the least float above zero. -/
def inLeastUnits (d : Datum) : Int :=
  let unit := Decimal.pow2 1074
  match d.textAsNumber with
  | .value (.integer n) => n.toInt * unit
  | d => (signedQuotient d.asReal).1 * unit / (signedQuotient d.asReal).2

/-- The sum of values as a float, rounded once; `none` if it is no number. -/
def realSum (ds : List Datum) : Option Decimal.Binary64 :=
  if ds.all fun d => d.asReal.isFinite then
    let n := ds.foldl (fun sum d => sum + inLeastUnits d) 0
    some (.ofQuotient (n < 0) n.natAbs (Decimal.pow2 1074))
  else (ds.map Datum.asReal).foldlM addReals (.ofInt 0)

/-- A float, or null for what is no number. -/
def ofReal? : Option Decimal.Binary64 → Datum
  | some x => .value (.real x)
  | none => .null

/-- The sum of values: an integer as long as all of them are. -/
def sumOf (ds : List Datum) : Except EngineError Datum :=
  if ds.isEmpty then .ok .null
  else if ds.all fun d => d.textAsNumber matches .value (.integer _) then
    match Word.int64? (ds.foldl (fun sum d => sum + d.asInteger.toInt) 0) with
    | some n => .ok (.integer n)
    | none => .error .overflow
  else .ok (ofReal? (realSum ds))

/-- The summary of the values of a group that are not null. -/
def Aggregate.summary (a : Aggregate) (collation : Collation) (ds : List Datum) :
    Except EngineError Datum :=
  match a with
  | .count => .ok (.integer (Int64.ofNat ds.length))
  | .sum => sumOf ds
  | .total => .ok (ofReal? (realSum ds))
  | .avg =>
      if ds.isEmpty then .ok .null
      else .ok (ofReal? ((realSum ds).bind fun sum => divReals sum (.ofInt ds.length)))
  | .min => .ok (extreme .lt collation ds)
  | .max => .ok (extreme .gt collation ds)

/-! ## Expressions -/

mutual

/-- The value of an expression. -/
def Expression.value (s : Situation) : Term → Except EngineError Datum
  | .literal v => .ok (.value v)
  | .parameter n => .ok (s.parameter n)
  | .name p => .ok (s.place p)
  | .apply (.aggregate a distinct _) xs =>
      match xs with
      | [] => .ok (.integer (Int64.ofNat s.group.length))
      | x :: _ => do
          let ds ← s.group.mapM fun row => Expression.value { s with row := some row } x
          let ds := ds.filter fun d => !d.isNull
          let collation := comparedBy xs
          a.summary collation (if distinct then withoutRepetitions collation [] ds else ds)
  | .apply op xs => do op.value s.table xs (← Expression.values s xs)

/-- The values of several expressions. -/
def Expression.values (s : Situation) : List Term → Except EngineError (List Datum)
  | [] => .ok []
  | x :: xs => do return (← Expression.value s x) :: (← Expression.values s xs)

end

end SqlChain.Sqlite
