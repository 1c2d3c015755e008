import SqlChain.Sqlite.Catalog
import SqlChain.Sqlite.Names
import SqlChain.Sqlite.Visit

/-!
# Queries

A query is first made definite: stars become columns and names become places.
Then it runs: rows are visited and matched, summarised by groups if it asks for
that, computed, sorted, and cut to the part that is wanted.
-/

namespace SqlChain.Sqlite

/-! ## Definite queries -/

/-- A column of the result: its name, and whether the statement gave it. -/
structure ResultColumn where
  name : String
  isNamed : Bool
  value : Term

/-- A query whose names have been looked up. -/
structure Retrieval where
  table : Table
  distinct : Bool
  columns : List ResultColumn
  predicate : Option Term
  groups : List Term
  having : Option Term
  order : List (SortTerm Place)
  limit : Option Term
  offset : Option Term
  /-- Whether the rows are summarised. -/
  isSummary : Bool

/-- A table of no columns and one row, for a query that names none. -/
def noTable : Table := { name := "", columns := [], rows := [⟨0, []⟩] }

/-- The columns of a star. -/
def starColumns (t : Table) : List ResultColumn :=
  t.columns.mapIdx fun i c => ⟨c.name, true, .name (.column i)⟩

/-- The name that a column has of its own. -/
def ownName (t : Table) (text : String) : Term → String
  | .name (.column i) => ((t.columns[i]?).map Column.name).getD text
  | .name .rowid => t.rowidName
  | _ => text

/-- The fault of a star, the last one if there are several. -/
def starFault? (names : Names) (columns : List Selected) : Option EngineError :=
  columns.foldl (fun fault column =>
    let shown := names.table.map fun t => names.called.getD t.name
    match column with
    | .star => if names.table.isSome then fault else some .noTables
    | .starOf name => if shown.any (sameName name) then fault else some (.noSuchTable name)
    | .expression _ _ _ => fault) none

/-- The greatest number of columns of a result. -/
def maxColumns : Nat := 2000

/-- The columns of a result. -/
def resultColumns (names : Names) : List Selected → Except EngineError (List ResultColumn)
  | [] => .ok []
  | .expression x called text :: rest => do
      let x ← names.term x
      let t := names.table.getD noTable
      let column : ResultColumn := ⟨called.getD (ownName t text x), called.isSome, x⟩
      return column :: (← resultColumns names rest)
  | _ :: rest => do
      return starColumns (names.table.getD noTable) ++ (← resultColumns names rest)

/-- The place that an integer asks for, if an expression is one. Large integers are
values like others. -/
def positionOf? : Written → Option Int
  | .literal (.integer n) =>
      if 0 ≤ n.toInt ∧ n.toInt < Decimal.pow2 31 then some n.toInt else none
  | .apply .plus [x] => positionOf? x
  | .apply .negate [x] => (positionOf? x).map (- ·)
  | _ => none

/-- A term to sort or group by: a result by its name if that is allowed, a result by
its place, or an expression. The second component is the place. -/
def orderedBy (names : Names) (columns : List ResultColumn) (byName : Bool) :
    Written → Except EngineError (Term × Option Int)
  | .apply (.collate c) [x] => do
      let (x, place) ← orderedBy names columns byName x
      return (.apply (.collate c) [x], place)
  | x =>
      let named := match x with
        | .name c =>
            if byName && c.table.isNone then
              columns.find? fun (r : ResultColumn) => r.isNamed && sameName r.name c.column
            else none
        | _ => none
      match named, positionOf? x with
      | some r, _ => .ok (r.value, none)
      | none, some n =>
          let found := if 1 ≤ n then columns[(n - 1).toNat]? else none
          .ok ((found.map ResultColumn.value).getD (.literal .null), some n)
      | none, none => do return (← names.term x, none)

/-- The terms to sort or group by. A place below one is refused at once, and one
past the end when all names are there. -/
def orderedByAll (names : Names) (columns : List ResultColumn) (byName : Bool)
    (clause : String) (xs : List Written) : Except EngineError (List Term) := do
  let outOfRange (i : Nat) : EngineError := .termOutOfRange (i + 1) clause columns.length
  let found ← xs.mapIdxM fun i x => do
    let (x, place) ← orderedBy names columns byName x
    if place.any fun n => n < 1 || 0xffff < n then throw (outOfRange i)
    return (x, place)
  match found.findIdx? fun f => f.2.any fun n => (columns.length : Int) < n with
  | some i => throw (outOfRange i)
  | none => return found.map Prod.fst

/-- The tables of a query. -/
def queryTables (tables : List Table) (terms : List TableTerm) : Except EngineError Names := do
  let found ← terms.mapM fun term => do
    let t ← findTable tables term.name
    if let some index := term.index then throw (.noSuchIndex index)
    return t
  match found, terms with
  | [], _ => return {}
  | [t], term :: _ => return { table := some t, called := term.called }
  | _, _ => throw (.unsupported "a join")

/-- Make a query definite. -/
def Retrieval.ofSelection (tables : List Table) (s : Selection) :
    Except EngineError Retrieval := do
  let names ← queryTables tables s.tables
  refuse (starFault? names s.columns)
  let limit ← s.limit.mapM (Names.term {})
  let offset ← s.offset.mapM (Names.term {})
  let columns ← resultColumns { names with summaries := true } s.columns
  if maxColumns < columns.length then throw .tooManyColumns
  let isSummary := !s.groups.isEmpty || columns.any fun r => (summaryIn? r.value).isSome
  let named := (columns.filter ResultColumn.isNamed).map fun r => (r.name, r.value)
  let names := { names with results := named, summaries := isSummary }
  let having ← s.having.mapM fun x => do
    unless isSummary do throw .havingWithoutGroups
    names.term x
  let predicate ← s.predicate.mapM names.term
  let summing := { names with summaries := true }
  let keys ← orderedByAll summing columns true "ORDER" (s.order.map SortTerm.key)
  let groups ← orderedByAll summing columns false "GROUP" s.groups
  if (summaryInAny? groups).isSome then throw .aggregateInGroups
  let unsummed := if isSummary || names.table.isNone then [] else keys
  let misuse := (predicate.bind summaryIn?).or (summaryInAny? unsummed)
  refuse (misuse.map .misusedAggregate)
  let all := columns.map ResultColumn.value ++ predicate.toList ++ groups ++ having.toList ++ keys
  refuse (wholeFaultOfAny? all)
  refuse ((keys ++ groups).findSome? fun x => collationFault? [x])
  return {
    table := names.table.getD noTable
    distinct := s.distinct
    columns := columns
    predicate := predicate
    groups := groups
    having := having
    order := (s.order.zip keys).map fun (term, key) =>
      ⟨key, term.descending, term.nullsFirst⟩
    limit := limit
    offset := offset
    isSummary := isSummary }

/-! ## Sorting -/

/-- The order of two values under a term. -/
def SortTerm.compare (term : SortTerm Place) (d e : Datum) : Ordering :=
  match d.isNull, e.isNull with
  | true, true => .eq
  | true, false => if term.nullsFirst then .lt else .gt
  | false, true => if term.nullsFirst then .gt else .lt
  | false, false =>
      let order := compareData (comparedBy [term.key]) d e
      if term.descending then order.swap else order

/-- The order of two lists of values under terms, one after another. -/
def compareKeys : List (SortTerm Place) → List Datum → List Datum → Ordering
  | term :: terms, d :: ds, e :: es => (term.compare d e).then (compareKeys terms ds es)
  | _, _, _ => .eq

/-- Sort by the keys that stand before items; items that no term tells apart keep
their order. -/
def sortedBy {α : Type} (terms : List (SortTerm Place)) (items : List (List Datum × α)) :
    List (List Datum × α) :=
  items.mergeSort fun a b => compareKeys terms a.1 b.1 != .gt

/-! ## Groups -/

/-- The terms to group by as terms to sort by. They take the directions of as many
terms to sort the result by. -/
def groupTerms (q : Retrieval) : List (SortTerm Place) :=
  if q.groups.length = q.order.length then
    (q.groups.zip q.order).map fun (x, term) => ⟨x, term.descending, !term.descending⟩
  else q.groups.map fun x => ⟨x, false, true⟩

/-- Divide sorted rows into groups of equal keys. -/
def groupsOf (terms : List (SortTerm Place)) :
    List (List Datum × StoredRow) → List (List (List Datum × StoredRow))
  | [] => []
  | row :: rest =>
      match groupsOf terms rest with
      | (first :: others) :: groups =>
          if compareKeys terms row.1 first.1 == .eq then (row :: first :: others) :: groups
          else [row] :: (first :: others) :: groups
      | groups => [row] :: groups

mutual

/-- The least and greatest values that an expression asks for. -/
def extremesIn : Term → List (Ordering × Term)
  | .apply (.aggregate .min _ _) [x] => [(.lt, x)]
  | .apply (.aggregate .max _ _) [x] => [(.gt, x)]
  | .apply _ xs => extremesInAny xs
  | _ => []

/-- The least and greatest values that expressions ask for, in order. -/
def extremesInAny : List Term → List (Ordering × Term)
  | [] => []
  | x :: xs => extremesIn x ++ extremesInAny xs

end

/-- The row that stands for a group in what is no summary: the one that the last of
the least and greatest values comes from, or else the first. -/
def representative (s : Situation) (q : Retrieval) (rows : List StoredRow) :
    Except EngineError (Option StoredRow) := do
  let all := q.columns.map ResultColumn.value ++ q.order.map SortTerm.key ++ q.having.toList
  match (extremesInAny all).getLast? with
  | none => return rows.head?
  | some (wanted, x) => do
      let ds ← rows.mapM fun row => do
        return (← Expression.value { s with row := some row } x, row)
      let ds := ds.filter fun (d, _) => !d.isNull
      let best := extreme wanted (comparedBy [x]) (ds.map Prod.fst)
      return ((ds.find? fun (d, _) => compareData (comparedBy [x]) d best == .eq).map
        Prod.snd).or rows.getLast?

/-- What a summary is computed from: one situation for each group, or one for all
rows if there are no terms to group by. -/
def summarised (s : Situation) (q : Retrieval) (rows : List StoredRow) :
    Except EngineError (List Situation) := do
  let situation (rows : List StoredRow) : Except EngineError Situation := do
    return { s with row := ← representative s q rows, group := rows }
  let situations ←
    if q.groups.isEmpty then do pure [← situation rows]
    else do
      let terms := groupTerms q
      let keyed ← rows.mapM fun row => do
        return (← Expression.values { s with row := some row } q.groups, row)
      -- rows that differ in their row ids need no sorting
      let sorted := if q.groups.any (isRowid s.table) then keyed else sortedBy terms keyed
      (groupsOf terms sorted).mapM fun group => situation (group.map Prod.snd)
  match q.having with
  | none => return situations
  | some x => situations.filterM fun s => do return (← Expression.value s x).truth == some true

/-! ## Running -/

/-- A bound as an integer. -/
def boundOf (s : Situation) (x : Term) : Except EngineError Int := do
  match Affinity.store .integer (← Expression.value s x) with
  | .value (.integer n) => return n.toInt
  | _ => throw .datatypeMismatch

/-- The part of the rows that is wanted: how many are left out in front, and how many
follow at most. A negative limit is none; with a limit of zero the offset is not
looked at. -/
def window (s : Situation) (q : Retrieval) : Except EngineError (Nat × Option Nat) := do
  match q.limit with
  | none => return (0, none)
  | some limit =>
      let limit ← boundOf s limit
      if limit = 0 then return (0, some 0)
      let offset ← match q.offset with
        | some x => boundOf s x
        | none => pure 0
      return (offset.toNat, if limit < 0 then none else some limit.toNat)

/-- The rows in a window. -/
def inWindow {α : Type} (w : Nat × Option Nat) (rows : List α) : List α :=
  match w.2 with
  | none => rows.drop w.1
  | some most => (rows.drop w.1).take most

/-- Whether two rows of values are the same. -/
def sameValues (ds es : List Datum) : Bool :=
  (ds.zip es).all fun (d, e) => compareData .binary d e == .eq

/-- The rows without the repetitions of earlier ones. -/
def withoutRepeatedRows (seen : List (List Datum)) :
    List (List Datum × List Datum) → List (List Datum × List Datum)
  | [] => []
  | row :: rest =>
      if seen.any (sameValues row.2) then withoutRepeatedRows seen rest
      else row :: withoutRepeatedRows (row.2 :: seen) rest

/-- The rows that a query matches, in the order of their visits. Rows that are to be
sorted by their row ids are visited in that order. -/
def Retrieval.matchedRows (q : Retrieval) (s : Situation) :
    Except EngineError (List StoredRow) := do
  match if q.isSummary then none else q.order.head? with
  | some term =>
      if isRowid q.table term.key then
        let rows ← matched s q.predicate q.table.rows
        return if term.descending then rows.reverse else rows
      visited s q.predicate
  | none => visited s q.predicate

/-- The rows of a query. -/
def Retrieval.run (q : Retrieval) (parameters : List Datum) :
    Except EngineError (List ResultRow) := do
  let s : Situation := { table := q.table, parameters := parameters }
  let w ← window s q
  if w.2 = some 0 then return []
  let rows ← q.matchedRows s
  let situations ←
    if q.isSummary then summarised s q rows
    else pure (rows.map fun row => { s with row := some row })
  let computed ← situations.mapM fun s => do
    let values ← Expression.values s (q.columns.map ResultColumn.value)
    return (← Expression.values s (q.order.map SortTerm.key), values)
  let computed := if q.distinct then withoutRepeatedRows [] computed else computed
  let names := q.columns.map ResultColumn.name
  return (inWindow w (sortedBy q.order computed)).map fun row => names.zip row.2

end SqlChain.Sqlite
