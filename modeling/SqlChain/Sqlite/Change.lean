import SqlChain.Sqlite.Select

/-!
# Changes

Inserting, updating and deleting rows. A change is made definite first, and then
carried out row by row; the first row that cannot be changed ends it. Where a
statement names a column twice, an insert takes the first value and an update
the last, and of several values for the row id the last counts in either.
-/

namespace SqlChain.Sqlite

/-! ## Definite changes -/

/-- An INSERT whose names have been looked up. -/
structure Insertion where
  table : Table
  /-- The columns that values are given for, in the order of the values. -/
  columns : List String
  rows : List (List Term)
  returning : List ResultColumn

/-- An UPDATE whose names have been looked up. -/
structure Revision where
  table : Table
  assignments : List (String × Term)
  predicate : Option Term
  returning : List ResultColumn

/-- A DELETE whose names have been looked up. -/
structure Deletion where
  table : Table
  predicate : Option Term
  returning : List ResultColumn

/-- The table that a statement changes. -/
def changeableTable (tables : List Table) (term : TableTerm) : Except EngineError Table := do
  let t ← findTable tables term.name
  if let some index := term.index then throw (.noSuchIndex index)
  unless t.isChangeable do throw (.readOnlyTable t.name)
  return t

/-- The columns that `RETURNING` asks for. -/
def returningColumns (t : Table) (columns : List Selected) :
    Except EngineError (List ResultColumn) := do
  if columns.any (· matches .starOf _) then throw .returningStar
  let found ← resultColumns { table := some t, schemas := false } columns
  refuse (wholeFaultOfAny? (found.map ResultColumn.value))
  return found

/-- The table as a fault names it. -/
def TableTerm.shown (term : TableTerm) : String := term.called.getD term.name.text

/-- Make an INSERT definite. -/
def Insertion.of (tables : List Table) (term : TableTerm) (columns : Option (List String))
    (source : InsertSource) (returning : List Selected) : Except EngineError Insertion := do
  let t ← changeableTable tables term
  let known (c : String) : Bool := (t.columnIndex? c).isSome || Table.isRowidName c
  if let some c := (columns.getD []).find? fun c => !known c then
    throw (.noColumnNamed term.shown c)
  let all := t.columns.map Column.name
  let (columns, rows) ← match source with
    | .defaults => pure ([], [[]])
    | .rows written => do
        let names : Names := { summaries := 1 < written.length }
        let rows ← written.mapM fun row => row.mapM names.term
        refuse ((summaryInAny? rows.flatten).map .misusedAggregate)
        let count := (written.head?.getD []).length
        match columns with
        | none =>
            if count ≠ all.length then
              throw (.suppliedCount term.shown all.length count)
            pure (all, rows)
        | some columns =>
            if count ≠ columns.length then throw (.valueCount count columns.length)
            pure (columns, rows)
  refuse (wholeFaultOfAny? rows.flatten)
  return ⟨t, columns, rows, ← returningColumns t returning⟩

/-- Make an UPDATE definite. -/
def Revision.of (tables : List Table) (term : TableTerm)
    (assignments : List (String × Written)) (predicate : Option Written)
    (returning : List Selected) : Except EngineError Revision := do
  let t ← changeableTable tables term
  let names : Names := { table := some t, called := term.called }
  let assignments ← assignments.mapM fun (column, x) => do
    let x ← names.term x
    if (t.columnIndex? column).isNone && !Table.isRowidName column then
      throw (.noSuchColumn column)
    return (column, x)
  let predicate ← predicate.mapM names.term
  refuse (wholeFaultOfAny? (assignments.map Prod.snd ++ predicate.toList))
  return ⟨t, assignments, predicate, ← returningColumns t returning⟩

/-- Make a DELETE definite. -/
def Deletion.of (tables : List Table) (term : TableTerm) (predicate : Option Written)
    (returning : List Selected) : Except EngineError Deletion := do
  let t ← changeableTable tables term
  let predicate ← predicate.mapM (Names.term { table := some t, called := term.called })
  refuse (wholeFaultOfAny? predicate.toList)
  return ⟨t, predicate, ← returningColumns t returning⟩

/-! ## Rows -/

/-- What `RETURNING` gives for a row. -/
def returned (t : Table) (parameters : List Datum) (columns : List ResultColumn)
    (row : StoredRow) : Except EngineError (List ResultRow) :=
  if columns.isEmpty then .ok []
  else do
    let s : Situation := { table := t, parameters := parameters, row := some row }
    let values ← Expression.values s (columns.map ResultColumn.value)
    return [(columns.map ResultColumn.name).zip values]

/-- The last value that is given for the row id. -/
def givenRowid? {α : Type} (t : Table) (given : List (String × α)) : Option α :=
  (given.reverse.find? fun g => t.namesRowid g.1).map Prod.snd

/-- The cells of a new row: each column's first given value, or else its default. -/
def newCells (t : Table) (given : List (String × Datum)) : List Datum :=
  t.columns.map fun c =>
    match given.find? fun g => sameName g.1 c.name with
    | some (_, d) => d
    | none => ((c.default.map fun d => Datum.value d.2).getD .null)

/-- The cells of a changed row: each column's last assigned value, or else the one it
had. -/
def changedCells (t : Table) (old : List Datum) (assigned : List (String × Datum)) :
    List Datum :=
  (t.columns.zip old).map fun (c, d) =>
    match assigned.reverse.find? fun a => sameName a.1 c.name with
    | some (_, d) => d
    | none => d

/-- How far a change has come: the tables, the rows it gives, the number of rows
changed and the latest row id inserted. -/
structure Progress where
  tables : List Table
  results : List ResultRow := []
  count : Nat := 0
  rowid : Option Int64 := none

/-- Insert one row. -/
def Insertion.insertRow (i : Insertion) (parameters : List Datum) (p : Progress)
    (row : List Term) : Except EngineError Progress := do
  let t ← findTable p.tables ⟨some i.table.schema, i.table.name⟩
  let values ← Expression.values { table := noTable, parameters := parameters } row
  let given := i.columns.zip values
  let floor := (greatestRowid p.tables t.name).toInt
  let (stored, t) ← t.insert floor ((givenRowid? t given).getD .null) (newCells t given)
  let tables := withTable p.tables t
  let tables ←
    if t.autoincrement then
      withGreatest tables t.name (Int64.ofInt (max floor stored.rowid.toInt))
    else pure tables
  let results ← returned t parameters i.returning stored
  return ⟨tables, p.results ++ results, p.count + 1, some stored.rowid⟩

/-- Insert rows up to the first that cannot be, and its fault if there is one. -/
def Insertion.run (i : Insertion) (parameters : List Datum) :
    List (List Term) → Progress → Progress × Option EngineError
  | [], p => (p, none)
  | row :: rest, p =>
      match i.insertRow parameters p row with
      | .ok p => i.run parameters rest p
      | .error e => (p, some e)

/-- Change rows one after another. A row whose id was taken by another meanwhile is
the other one. -/
def Revision.reviseRows (r : Revision) (parameters : List Datum) :
    List StoredRow → Progress → Except EngineError Progress
  | [], p => .ok p
  | old :: rest, p => do
      let t ← findTable p.tables ⟨some r.table.schema, r.table.name⟩
      let s : Situation := { table := t, parameters := parameters, row := some old }
      let values ← Expression.values s (r.assignments.map Prod.snd)
      let assigned := (r.assignments.map Prod.fst).zip values
      let (row, t) ← t.replace old (givenRowid? t assigned) (changedCells t old.cells assigned)
      let results ← returned t parameters r.returning row
      r.reviseRows parameters rest
        { p with
          tables := withTable p.tables t
          results := p.results ++ results
          count := p.count + 1 }

/-- Carry out an UPDATE. -/
def Revision.run (r : Revision) (parameters : List Datum) (tables : List Table) :
    Except EngineError Progress := do
  let s : Situation := { table := r.table, parameters := parameters }
  let rows ← matched s r.predicate r.table.rows
  r.reviseRows parameters rows { tables := tables }

/-- Carry out a DELETE. -/
def Deletion.run (d : Deletion) (parameters : List Datum) (tables : List Table) :
    Except EngineError Progress := do
  let s : Situation := { table := d.table, parameters := parameters }
  let gone ← matched s d.predicate d.table.rows
  let results ← gone.flatMapM (returned d.table parameters d.returning)
  return {
    tables := withTable tables (d.table.remove gone)
    results := results
    count := gone.length }

end SqlChain.Sqlite
