import SqlChain.Error.Database
import SqlChain.Sqlite.Catalog

/-!
# Cells of a row

The engine gives rows of data, and tells the type of each value as it is, which need
not be the type of its column. A cell can be asked for as any type; text is kept as
bytes, so only reading it shows whether it is any.
-/

namespace SqlChain.Sqlite

/-- The name of the type that the engine tells of a value. -/
def Datum.typeName : Datum → String
  | .value .null => "NULL"
  | .value (.integer _) => "INTEGER"
  | .value (.real _) => "REAL"
  | .value (.text _) => "TEXT"
  | .rawText _ => "TEXT"
  | .value (.blob _) => "BLOB"

/-- The cell at a place. -/
def cellAt (row : ResultRow) (i : Nat) : Except DatabaseError Datum :=
  match row[i]? with
  | some (_, d) => .ok d
  | none => .error (.columnIndex i row.length)

/-- The text of the cell at a place. -/
def textAt (row : ResultRow) (i : Nat) : Except DatabaseError String := do
  let d ← cellAt row i
  (Text.decodeUtf8 d.bytes).mapError (.undecodable i)

end SqlChain.Sqlite
