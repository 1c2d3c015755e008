import SqlChain.Sqlite.Affinity

/-!
# Tables

A table is its columns and its rows, the rows in the order of their row ids. A
column that is the integer primary key is the row id under another name; every
table also answers to `rowid`. New row ids go up: past the greatest one there
is, and in a table that never reuses ids past the greatest one there was, which
the database keeps apart.
-/

namespace SqlChain.Sqlite

/-- A column of a table. -/
structure Column where
  name : String
  type : String := ""
  affinity : Affinity := .blob
  notNull : Bool := false
  default : Option (String × Value) := none
  isRowid : Bool := false
deriving DecidableEq, Repr

/-- A stored row. -/
structure StoredRow where
  rowid : Int64
  cells : List Datum
deriving DecidableEq, Repr

/-- A table. -/
structure Table where
  name : String
  columns : List Column
  schema : String := "main"
  /-- Other names that the table goes by. -/
  otherNames : List String := []
  /-- Names that the table goes by together with its schema. -/
  namesInSchema : List String := []
  /-- The statement that made the table. -/
  sql : String := ""
  /-- Whether statements may change the table. -/
  isChangeable : Bool := true
  /-- Whether row ids of deleted rows are never given again. -/
  autoincrement : Bool := false
  rows : List StoredRow := []
deriving DecidableEq, Repr

/-- Whether two names are one. Only ASCII letters have two cases. -/
def sameName (a b : String) : Bool := a.toList.map Char.toLower == b.toList.map Char.toLower

namespace Table

/-! ## Names -/

/-- Whether the table goes by a name. -/
def goesBy (t : Table) (name : TableName) : Bool :=
  match name.schema with
  | none => (t.name :: t.otherNames).any (sameName name.name)
  | some schema =>
      sameName schema t.schema &&
        (t.name :: t.otherNames ++ t.namesInSchema).any (sameName name.name)

/-- The other names of the row id. -/
def isRowidName (name : String) : Bool :=
  sameName name "rowid" || sameName name "_rowid_" || sameName name "oid"

/-- The place of a column among the columns. -/
def columnIndex? (t : Table) (name : String) : Option Nat :=
  t.columns.findIdx? fun c => sameName c.name name

/-- The place of the column that is the row id. -/
def rowidIndex? (t : Table) : Option Nat := t.columns.findIdx? (·.isRowid)

/-- Whether a name stands for the row id. -/
def namesRowid (t : Table) (name : String) : Bool :=
  match t.columns.find? fun c => sameName c.name name with
  | some c => c.isRowid
  | none => isRowidName name

/-- The name that the row id goes by. -/
def rowidName (t : Table) : String := ((t.columns.find? (·.isRowid)).map Column.name).getD "rowid"

/-! ## Rows -/

/-- The first column that must not hold null and would. -/
def nullFault? (t : Table) (cells : List Datum) : Option EngineError :=
  ((t.columns.zip cells).find? fun (c, d) => c.notNull && d.isNull).map
    fun (c, _) => .notNull t.name c.name

/-- The row id that the next row gets on its own. `floor` is the greatest one
there was. -/
def nextRowid (t : Table) (floor : Int) : Except EngineError Int64 :=
  let last := (t.rows.getLast?.map fun r => r.rowid.toInt).getD 0
  let last := if t.autoincrement then max last floor else last
  if last < Word.maxInt64 then .ok (Int64.ofInt (last + 1)) else .error .full

/-- The fault of a row id that is taken. -/
def repeated (t : Table) : EngineError :=
  .notUnique t.name t.rowidName (t.rowidIndex?).isNone

/-- Whether a row has the row id. -/
def hasRowid (t : Table) (id : Int64) : Bool := t.rows.any fun r => r.rowid == id

/-- Put a row in its place. -/
def insertRow (row : StoredRow) : List StoredRow → List StoredRow
  | [] => [row]
  | r :: rest => if row.rowid < r.rowid then row :: r :: rest else r :: insertRow row rest

/-- The row id that a value asks for; null asks for none. -/
def rowidOf (d : Datum) : Except EngineError (Option Int64) :=
  match Affinity.store .integer d with
  | .value (.integer n) => .ok (some n)
  | .value .null => .ok none
  | _ => .error .datatypeMismatch

/-- The cells as the columns store them, with the row id under the integer primary
key. -/
def storedCells (t : Table) (id : Int64) (cells : List Datum) : List Datum :=
  (t.columns.zip cells).map fun (c, d) => if c.isRowid then .integer id else c.affinity.store d

/-- Insert a row of cells that asks for a row id: the new row and the table with
it. -/
def insert (t : Table) (floor : Int) (requested : Datum) (cells : List Datum) :
    Except EngineError (StoredRow × Table) := do
  let id ← match ← rowidOf requested with
    | some id => pure id
    | none => t.nextRowid floor
  let row : StoredRow := ⟨id, t.storedCells id cells⟩
  if let some e := t.nullFault? row.cells then throw e
  if t.hasRowid id then throw t.repeated
  return (row, { t with rows := insertRow row t.rows })

/-- Replace a row by cells and perhaps another row id: the new row and the table
with it. -/
def replace (t : Table) (old : StoredRow) (requested : Option Datum) (cells : List Datum) :
    Except EngineError (StoredRow × Table) := do
  let id ← match requested with
    | none => pure old.rowid
    | some d =>
        match ← rowidOf d with
        | some id => pure id
        | none => throw .datatypeMismatch
  let row : StoredRow := ⟨id, t.storedCells id cells⟩
  if let some e := t.nullFault? row.cells then throw e
  if id ≠ old.rowid ∧ t.hasRowid id then throw t.repeated
  return (row, { t with rows := insertRow row (t.rows.filter fun r => r.rowid ≠ old.rowid) })

/-- The table without the rows. -/
def remove (t : Table) (gone : List StoredRow) : Table :=
  { t with rows := t.rows.filter fun r => !gone.any fun g => g.rowid == r.rowid }

end Table

end SqlChain.Sqlite
