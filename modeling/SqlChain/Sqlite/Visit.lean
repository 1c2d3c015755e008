import SqlChain.Sqlite.Evaluate

/-!
# The order of visits

Rows are visited in the order of their row ids. An alternative whose parts all
restrict the row id may be cheaper to answer part by part: then the rows of the
first part come first, and those of a later part after them. Costs are
logarithms, ten for a factor of two. A search for one row id costs least, a
range bounded on one side saves little, and a visit of all rows costs most.

What an alternative says as a whole restricts the visit of all rows too: one of
equalities is a search among values, and one of two bounds by the same value is
the wider bound.
-/

namespace SqlChain.Sqlite

/-! ## Costs -/

/-- What the smaller of two summands adds, by the distance of their logarithms. -/
def summandGains : List Nat :=
  [10, 10, 9, 9, 8, 8, 7, 7, 7, 6, 6, 6, 5, 5, 5, 4, 4, 4, 4, 3, 3, 3, 3, 3, 3, 2, 2, 2, 2, 2, 2,
    2]

/-- The logarithm of a sum. -/
def addCosts (a b : Nat) : Nat :=
  let (high, low) := (max a b, min a b)
  let gain := match summandGains[high - low]? with
    | some gain => gain
    | none => if high - low ≤ 49 then 1 else 0
  high + gain

/-- A visit of all rows. -/
def fullCost : Nat := 216

/-- A range bounded on one side. -/
def halfRangeCost : Nat := 196

/-- A range bounded on both sides. -/
def rangeCost : Nat := 156

/-- A search for one row id. -/
def searchCost : Nat := 45

/-- What the logarithms of the eighths between powers of two add. -/
def eighths : List Nat := [0, 2, 3, 5, 6, 7, 8, 9]

/-- The logarithm of a count, from the first three bits of it. -/
def countCost (n : Nat) : Nat :=
  if n < 2 then 0
  else
    let bits := n.log2
    let leading := if bits < 3 then n * Decimal.pow2 (3 - bits) else n / Decimal.pow2 (bits - 3)
    bits * 10 + (eighths[leading % 8]?).getD 0

/-! ## Tests of the row id -/

/-- What a condition says about the row id. -/
inductive RowidTest where
  | equal
  | isEqual
  /-- Equality with one of several values. -/
  | among (count : Nat)
  | above
  | below
  | within
  | nothing
deriving DecidableEq, Repr

mutual

/-- Whether an expression is the same in all rows. -/
def isConstant : Term → Bool
  | .name _ => false
  | .apply _ xs => areConstant xs
  | _ => true

/-- Whether expressions are the same in all rows. -/
def areConstant : List Term → Bool
  | [] => true
  | x :: xs => isConstant x && areConstant xs

end

/-- Whether an expression is the row id. -/
def isRowid (t : Table) : Term → Bool
  | .name .rowid => true
  | .name (.column i) => (t.columns[i]?).any Column.isRowid
  | _ => false

/-- What a comparison says about the row id on its left. -/
def Comparison.rowidTest : Comparison → RowidTest
  | .eq => .equal
  | .is => .isEqual
  | .gt => .above
  | .ge => .above
  | .lt => .below
  | .le => .below
  | .ne => .nothing
  | .isNot => .nothing

/-- The test with its sides exchanged. -/
def RowidTest.exchanged : RowidTest → RowidTest
  | .above => .below
  | .below => .above
  | test => test

/-- What a condition says about the row id. -/
def rowidTest (t : Table) : Term → RowidTest
  | .apply (.compare c) [x, y] =>
      if isRowid t x && isConstant y then c.rowidTest
      else if isRowid t y && isConstant x then c.rowidTest.exchanged
      else .nothing
  | .apply (.between false) [x, y, z] =>
      if isRowid t x && isConstant y && isConstant z then .within else .nothing
  | .apply (.isIn false) (x :: xs) =>
      if isRowid t x && areConstant xs then .among xs.length else .nothing
  | _ => .nothing

/-- The values that a condition compares the row id with, each with the test. -/
def rowidBounds (t : Table) : Term → List (RowidTest × Term)
  | .apply (.compare c) [x, y] =>
      match rowidTest t (.apply (.compare c) [x, y]) with
      | .nothing => []
      | .isEqual => []
      | test => [(test, if isRowid t x then y else x)]
  | .apply (.between false) [x, y, z] =>
      match rowidTest t (.apply (.between false) [x, y, z]) with
      | .within => [(.above, y), (.below, z)]
      | _ => []
  | _ => []

/-- Whether two constants are plainly the same. -/
def isSameConstant : Term → Term → Bool
  | .literal v, .literal w => v == w
  | .parameter m, .parameter n => m == n
  | .apply .plus [x], .apply .plus [y] => isSameConstant x y
  | .apply .negate [x], .apply .negate [y] => isSameConstant x y
  | _, _ => false

mutual

/-- The parts of a condition that `AND` joins. -/
def conjuncts : Term → List Term
  | .apply .and xs => conjunctsOfAll xs
  | x => [x]

/-- The parts of several conditions that `AND` joins. -/
def conjunctsOfAll : List Term → List Term
  | [] => []
  | x :: xs => conjuncts x ++ conjunctsOfAll xs

end

mutual

/-- The parts of a condition that `OR` joins. -/
def disjuncts : Term → List Term
  | .apply .or xs => disjunctsOfAll xs
  | x => [x]

/-- The parts of several conditions that `OR` joins. -/
def disjunctsOfAll : List Term → List Term
  | [] => []
  | x :: xs => disjuncts x ++ disjunctsOfAll xs

end

/-- The cost of a search by one test. -/
def RowidTest.cost? : RowidTest → Option Nat
  | .equal => some searchCost
  | .isEqual => some searchCost
  | .among n => some (searchCost + countCost n)
  | _ => none

/-- The cost of visiting the rows that pass all the tests. -/
def testsCost (tests : List RowidTest) : Nat :=
  match (tests.filterMap RowidTest.cost?).min? with
  | some cost => cost
  | none =>
      let low := .above ∈ tests || .within ∈ tests
      let high := .below ∈ tests || .within ∈ tests
      if low && high then rangeCost else if low || high then halfRangeCost else fullCost

/-- The bound that two bounds by one value give as alternatives, if they lie on one
side of it. -/
def RowidTest.either? : RowidTest → RowidTest → Option RowidTest
  | .equal, test => some test
  | test, .equal => some test
  | .above, .above => some .above
  | .below, .below => some .below
  | _, _ => none

/-- What two alternatives say about the row id. -/
def alternativeBounds (t : Table) (x y : Term) : List RowidTest :=
  ((conjuncts x).flatMap (rowidBounds t)).flatMap fun (a, p) =>
    ((conjuncts y).flatMap (rowidBounds t)).filterMap fun (b, q) =>
      if isSameConstant p q then a.either? b else none

/-- What a part of a condition says about the row id, as an alternative of several
parts also when it is taken as a whole. -/
def partTests (t : Table) (x : Term) : List RowidTest :=
  match disjuncts x with
  | [x] => [rowidTest t x]
  | parts =>
      if parts.all fun x => rowidTest t x = .equal then [.among parts.length]
      else
        match parts with
        | [x, y] => alternativeBounds t x y
        | _ => []

/-- The parts of an alternative, and the cost of answering them one by one, given the
tests of all rows. An alternative of equalities is a search among values. -/
def alternative? (t : Table) (tests : List RowidTest) (x : Term) : Option (List Term × Nat) :=
  match disjuncts x with
  | x :: y :: zs =>
      let parts := x :: y :: zs
      if parts.all fun x => rowidTest t x = .equal then none
      else
        let costs := parts.map fun part =>
          testsCost ((conjuncts part).flatMap (partTests t) ++ tests)
        some (parts, costs.tail.foldl addCosts (costs.head?.getD 0) + 1)
  | _ => none

/-- The parts to answer one by one, if that is cheapest. -/
def visitedParts? (t : Table) (condition : Term) : Option (List Term) :=
  let all := conjuncts condition
  let tests := all.flatMap (partTests t)
  let best := (all.filterMap (alternative? t tests)).foldl (fun best a =>
    match best with
    | none => some a
    | some b => if a.2 < b.2 then some a else best) none
  best.bind fun (parts, cost) => if cost < testsCost tests then some parts else none

/-! ## Visits -/

/-- Whether a row is matched: the condition is certainly true. -/
def isMatched (s : Situation) (condition : Term) (row : StoredRow) : Except EngineError Bool := do
  return (← Expression.value { s with row := some row } condition).truth == some true

/-- The rows that a condition matches, in their order. -/
def matched (s : Situation) (condition : Option Term) (rows : List StoredRow) :
    Except EngineError (List StoredRow) :=
  match condition with
  | none => .ok rows
  | some x => rows.filterM (isMatched s x)

/-- The rows, those first that an earlier part matches. -/
def byParts (s : Situation) : List Term → List StoredRow → Except EngineError (List StoredRow)
  | [], rows => .ok rows
  | x :: xs, rows => do
      let found ← rows.filterM (isMatched s x)
      let others := rows.filter fun row => !found.any fun f => f.rowid == row.rowid
      return found ++ (← byParts s xs others)

/-- The rows that a condition matches, in the order of their visits. -/
def visited (s : Situation) (condition : Option Term) : Except EngineError (List StoredRow) := do
  let rows ← match condition.bind (visitedParts? s.table) with
    | some parts => byParts s parts s.table.rows
    | none => pure s.table.rows
  matched s condition rows

end SqlChain.Sqlite
