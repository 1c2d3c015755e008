import SqlChain.Execution
import SqlChain.Identifier

/-!
# The schema of a database

Two statements ask SQLite about its tables. The name of a table goes into its
statement unquoted, so it has to be an identifier that names one table; the
check comes before anything else, and the query that carries the client plays
no part in it.
-/

namespace SqlChain

/-- A column of a table. -/
structure ColumnInfo where
  position : Int64
  name : String
  type : String
  notNull : Int64
  default : Option Json
  primaryKey : Int64
deriving Repr

namespace ColumnInfo

/-- A column as a structure. -/
def struct : Struct where
  name := "ColumnInfo"
  fields :=
    [⟨"cid", .int64⟩, ⟨"name", .text⟩, ⟨"type", .text⟩, ⟨"notnull", .int64⟩,
      ⟨"dflt_value", .optional .json⟩, ⟨"pk", .int64⟩]
  defaults := none

/-- Read a column. -/
def read (j : Json) : Except Mismatch ColumnInfo :=
  (struct.read j).map fun (position, name, type, notNull, default, primaryKey, ()) =>
    ⟨position, name, type, notNull, default, primaryKey⟩

/-- Write a column. -/
def toJson (c : ColumnInfo) : Json :=
  struct.write (c.position, c.name, c.type, c.notNull, c.default, c.primaryKey, ())

/-- Whether the column may hold null. -/
def isNullable (c : ColumnInfo) : Bool := c.notNull == 0

/-- Whether the column is part of the primary key. -/
def isPrimaryKey (c : ColumnInfo) : Bool := 0 < c.primaryKey

end ColumnInfo

/-- A table or a view. -/
structure TableEntry where
  schema : String
  name : String
  kind : String
  columns : Int64
  withoutRowid : Int64
  strict : Int64
deriving Repr

namespace TableEntry

/-- A table as a structure. -/
def struct : Struct where
  name := "TableEntry"
  fields :=
    [⟨"schema", .text⟩, ⟨"name", .text⟩, ⟨"type", .text⟩, ⟨"ncol", .int64⟩, ⟨"wr", .int64⟩,
      ⟨"strict", .int64⟩]
  defaults := none

/-- Read a table. -/
def read (j : Json) : Except Mismatch TableEntry :=
  (struct.read j).map fun (schema, name, kind, columns, withoutRowid, strict, ()) =>
    ⟨schema, name, kind, columns, withoutRowid, strict⟩

/-- Write a table. -/
def toJson (t : TableEntry) : Json :=
  struct.write (t.schema, t.name, t.kind, t.columns, t.withoutRowid, t.strict, ())

/-- The tables that SQLite and its hosts keep for themselves. -/
def internalNames : List String :=
  ["sqlite_sequence", "d1_migrations", "_cf_KV", "sqlite_schema", "sqlite_temp_schema"]

/-- Whether the table is kept by SQLite or its host. -/
def isInternal (t : TableEntry) : Bool := t.name ∈ internalNames

end TableEntry

namespace Query

variable {κ σ : Type}

/-- Whether the text names one table: an identifier whose last part is no star. -/
def namesTable (table : String) : Bool :=
  Identifier.isIdentifier table && table.toList.getLast? != some '*'

/-- The statement that describes a table. -/
def tableInfoStatement (table : String) : Statement := ⟨"PRAGMA table_info(" ++ table ++ ")", []⟩

/-- The statement that lists the tables. -/
def tableListStatement : Statement := ⟨"PRAGMA table_list", []⟩

/-- Describe the columns of a table. -/
def tableInfo (b : Backend κ σ) (fallback : Option κ) (table : String) (q : Query κ) (state : σ) :
    Outcome κ σ (List ColumnInfo) :=
  if namesTable table then
    q.rawAll b fallback (fun row => ColumnInfo.read (.object row)) (tableInfoStatement table) state
  else ⟨.error (.invalid (.unsafeClause .tableInfo table)), [], state⟩

/-- List the tables, the internal ones only on demand. -/
def tableList (b : Backend κ σ) (fallback : Option κ) (showAll : Bool) (q : Query κ) (state : σ) :
    Outcome κ σ (List TableEntry) :=
  (q.rawAll b fallback (fun row => TableEntry.read (.object row)) tableListStatement state).andThen
    fun (tables : List TableEntry) =>
      .ok (if showAll then tables else tables.filter fun t => !t.isInternal)

end Query

end SqlChain
