import SqlChain.Sqlite.Expression

/-!
# Statements

The statements about a single table, and questions about the schema. Names are
as written, and expressions of the result keep their text, which may have to
serve as a name.
-/

namespace SqlChain.Sqlite

/-- An expression whose names have not been looked up. -/
abbrev Written := Expression ColumnName

/-- A column of the result. -/
inductive Selected where
  | star
  | starOf (table : String)
  | expression (x : Written) (called : Option String) (text : String)
deriving Repr

/-- A term to sort by. Nulls come first in ascending order unless the term says
otherwise. -/
structure SortTerm (ν : Type) where
  key : Expression ν
  descending : Bool
  nullsFirst : Bool
deriving Repr

/-- A table as a statement names it. -/
structure TableTerm where
  name : TableName
  called : Option String := none
  /-- The index that the statement insists on. -/
  index : Option String := none
deriving DecidableEq, Repr

/-- A query. Several tables are read and not joined. -/
structure Selection where
  distinct : Bool
  columns : List Selected
  tables : List TableTerm
  predicate : Option Written
  groups : List Written
  having : Option Written
  order : List (SortTerm ColumnName)
  limit : Option Written
  offset : Option Written
deriving Repr

/-- The rows of an INSERT. -/
inductive InsertSource where
  | defaults
  | rows (rows : List (List Written))
deriving Repr

/-- A statement. -/
inductive Command where
  | select (s : Selection)
  | insert (table : TableTerm) (columns : Option (List String)) (source : InsertSource)
      (returning : List Selected)
  | update (table : TableTerm) (assignments : List (String × Written))
      (predicate : Option Written) (returning : List Selected)
  | delete (table : TableTerm) (predicate : Option Written) (returning : List Selected)
  | pragma (schema : Option String) (name : String) (argument : Option String)
  | omitted (what : String)
deriving Repr

end SqlChain.Sqlite
