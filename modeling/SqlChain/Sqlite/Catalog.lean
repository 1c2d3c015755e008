import SqlChain.Sqlite.Command
import SqlChain.Sqlite.Reader
import SqlChain.Sqlite.Table

/-!
# The tables of a database

A database has the tables that were made in it, and tables that describe it: the
list of tables under four names, one for the database and one for what is
temporary. A table that never reuses row ids makes the engine keep a table of
the greatest ones, which statements can read and change like any other.
-/

namespace SqlChain.Sqlite

/-- The rows that a statement gives. -/
abbrev ResultRow := List (String × Datum)

/-! ## The tables that are there -/

/-- The columns of a list of tables. -/
def schemaColumns : List Column :=
  [{ name := "type", type := "TEXT", affinity := .text },
    { name := "name", type := "TEXT", affinity := .text },
    { name := "tbl_name", type := "TEXT", affinity := .text },
    { name := "rootpage", type := "INT", affinity := .integer },
    { name := "sql", type := "TEXT", affinity := .text }]

/-- The row of a table in the list of tables. The first page is the list's own. -/
def schemaRow (i : Nat) (t : Table) : StoredRow :=
  ⟨Int64.ofNat (i + 1),
    [.text "table", .text t.name, .text t.name, .integer (Int64.ofNat (i + 2)), .text t.sql]⟩

/-- The list of tables. -/
def schemaTable (tables : List Table) : Table :=
  { name := "sqlite_master"
    otherNames := ["sqlite_schema"]
    columns := schemaColumns
    isChangeable := false
    rows := tables.mapIdx schemaRow }

/-- The list of temporary tables. There are none. -/
def temporarySchemaTable : Table :=
  { name := "sqlite_temp_master"
    otherNames := ["sqlite_temp_schema"]
    namesInSchema := ["sqlite_schema", "sqlite_master"]
    schema := "temp"
    columns := schemaColumns
    isChangeable := false }

/-- The table of the greatest row ids. -/
def sequenceTable : Table :=
  { name := "sqlite_sequence"
    columns := [{ name := "name" }, { name := "seq" }]
    sql := "CREATE TABLE sqlite_sequence(name,seq)" }

/-! ## Finding a table -/

/-- Whether there is a schema of the name. -/
def isSchema (name : String) : Bool := sameName name "main" || sameName name "temp"

/-- The table of a name. Without a schema, a name of the list of temporary tables
is one of its own. -/
def findTable (tables : List Table) (name : TableName) : Except EngineError Table :=
  let temporary :=
    match name.schema with
    | some schema => sameName schema "temp"
    | none => sameName name.name "sqlite_temp_master" || sameName name.name "sqlite_temp_schema"
  let found :=
    if temporary then [temporarySchemaTable]
    else if name.schema.all (sameName · "main") then tables ++ [schemaTable tables]
    else []
  match found.find? (·.goesBy name) with
  | some t => .ok t
  | none => .error (.noSuchTable name.text)

/-- The tables with one of them changed. -/
def withTable (tables : List Table) (t : Table) : List Table :=
  tables.map fun u => if u.name = t.name then t else u

/-! ## The greatest row ids -/

/-- The row of a table among the greatest row ids. -/
def sequenceRow? (tables : List Table) (name : String) : Option StoredRow := do
  let sequence ← tables.find? fun t => t.name = sequenceTable.name
  sequence.rows.find? fun row => row.cells.head? = some (.text name)

/-- The greatest row id that was given in a table. -/
def greatestRowid (tables : List Table) (name : String) : Int64 :=
  ((sequenceRow? tables name).map fun row => ((row.cells[1]?).getD Datum.null).asInteger).getD 0

/-- The tables with a greatest row id written down, unless it is no news. -/
def withGreatest (tables : List Table) (name : String) (greatest : Int64) :
    Except EngineError (List Table) := do
  let cells := [.text name, .integer greatest]
  match tables.find? fun t => t.name = sequenceTable.name with
  | none => return tables
  | some sequence =>
      match sequenceRow? tables name with
      | some old =>
          if greatest ≤ greatestRowid tables name then return tables
          let (_, sequence) ← sequence.replace old none cells
          return withTable tables sequence
      | none =>
          let (_, sequence) ← sequence.insert 0 .null cells
          return withTable tables sequence

/-! ## Questions about the schema -/

/-- The row of the column at a place. -/
def columnRow (i : Nat) (c : Column) : ResultRow :=
  let flag (b : Bool) : Datum := .integer (if b then 1 else 0)
  [("cid", .integer (Int64.ofNat i)), ("name", .text c.name), ("type", .text c.type),
    ("notnull", flag c.notNull),
    ("dflt_value", (c.default.map fun d => Datum.text d.1).getD .null), ("pk", flag c.isRowid)]

/-- The rows of a table's columns; none for a table that is not there. -/
def tableInfo (tables : List Table) (name : TableName) : List ResultRow :=
  match findTable tables name with
  | .ok t => t.columns.mapIdx columnRow
  | .error _ => []

/-- The row of a table. -/
def tableRow (schema name : String) (columns : Nat) : ResultRow :=
  [("schema", .text schema), ("name", .text name), ("type", .text "table"),
    ("ncol", .integer (Int64.ofNat columns)), ("wr", .integer 0), ("strict", .integer 0)]

/-- The rows of all tables, the lists of tables last, or of those in a schema and of
a name if they are asked for. -/
def tableList (tables : List Table) (schema name : Option String) : List ResultRow :=
  let all := tables.map (fun t => (t, t.name)) ++
    [(schemaTable tables, "sqlite_schema"), (temporarySchemaTable, "sqlite_temp_schema")]
  let wanted := all.filter fun (t, _) =>
    schema.all (sameName · t.schema) && name.all (sameName · t.name)
  wanted.map fun (t, shown) => tableRow t.schema shown t.columns.length

/-- The rows of a question about the schema. One that is unknown has none. -/
def pragma (tables : List Table) (schema : Option String) (name : String)
    (argument : Option String) : Except EngineError (List ResultRow) :=
  match schema.filter fun schema => !isSchema schema with
  | some schema => .error (.unknownDatabase schema)
  | none =>
      match upperWord name, argument with
      | "TABLE_INFO", some table => .ok (tableInfo tables ⟨schema, table⟩)
      | "TABLE_LIST", table => .ok (tableList tables schema table)
      | _, _ => .ok []

end SqlChain.Sqlite
