import SqlChain.Client.Driver
import SqlChain.Sqlite.Change
import SqlChain.Sqlite.Reader.Statement
import SqlChain.Sqlite.Row

/-!
# Connections

A connection to a database of its own: the tables, and what it remembers of its
latest change. A text may hold several statements, which are carried out one
after another up to the first fault; each either does all it says or changes
nothing. A connection is a driver: a query of it is a text with the arguments
that it has been handed so far.
-/

namespace SqlChain.Sqlite

/-- A connection. -/
structure Connection where
  tables : List Table
  /-- The number of rows that the latest change was about. -/
  changes : Nat := 0
  /-- The row id of the latest insert, or zero. -/
  lastRowid : Int64 := 0
deriving Repr

/-! ## One statement -/

/-- A statement that can be carried out. -/
inductive Definite where
  | retrieval (r : Retrieval)
  | insertion (i : Insertion)
  | revision (r : Revision)
  | deletion (d : Deletion)
  | rows (rows : List ResultRow)

/-- Make a statement definite. -/
def Definite.ofCommand (tables : List Table) : Command → Except EngineError Definite
  | .select s => .retrieval <$> Retrieval.ofSelection tables s
  | .insert table columns source returning =>
      .insertion <$> Insertion.of tables table columns source returning
  | .update table assignments predicate returning =>
      .revision <$> Revision.of tables table assignments predicate returning
  | .delete table predicate returning => .deletion <$> Deletion.of tables table predicate returning
  | .pragma schema name argument => .rows <$> pragma tables schema name argument
  | .omitted what => .error (.unsupported what)

/-- The connection after a change. -/
def Connection.after (c : Connection) (p : Progress) : Connection :=
  { tables := p.tables, changes := p.count, lastRowid := p.rowid.getD c.lastRowid }

/-- The connection after a change that failed: the tables are as they were, and
nothing counts as changed. -/
def Connection.afterFault (c : Connection) (rowid : Option Int64) : Connection :=
  { c with changes := 0, lastRowid := rowid.getD c.lastRowid }

/-- Carry out a statement: its rows or its fault, and the connection after it. -/
def Connection.carryOut (c : Connection) (parameters : List Datum) :
    Definite → Except EngineError (List ResultRow) × Connection
  | .retrieval r => (r.run parameters, c)
  | .insertion i =>
      match i.run parameters i.rows { tables := c.tables } with
      | (p, none) => (.ok p.results, c.after p)
      | (p, some e) => (.error e, c.afterFault p.rowid)
  | .revision r =>
      match r.run parameters c.tables with
      | .ok p => (.ok p.results, c.after p)
      | .error e => (.error e, c.afterFault none)
  | .deletion d =>
      match d.run parameters c.tables with
      | .ok p => (.ok p.results, c.after p)
      | .error e => (.error e, c.afterFault none)
  | .rows rows => (.ok rows, c)

/-- Read a statement, look up its names and bind its parameters: the statement, the
values of the parameters, and the number of arguments taken in order so far. -/
def Connection.bind (c : Connection) (arguments : List Driver.Argument) (taken : Nat)
    (ts : List Token) : Except DatabaseError (Definite × List Datum × Nat) := do
  let (definite, ps) ← Except.mapError DatabaseError.engine (do
    let p ← prepare ts
    return (← Definite.ofCommand c.tables p.command, p.parameters))
  let (parameters, taken) ← ps.bind arguments taken
  return (definite, parameters, taken)

/-! ## Statements in sequence -/

/-- The effect of the latest change. -/
def Connection.effect (c : Connection) : Driver.Effect :=
  ⟨UInt64.ofNat c.changes, c.lastRowid⟩

/-- What statements give: their rows, and the effect of them all. -/
structure Answers where
  rows : List ResultRow := []
  effect : Driver.Effect := {}

/-- The answers with those of one more statement, after which the connection is as
given. Rows affected add up. -/
def Answers.add (a : Answers) (rows : List ResultRow) (c : Connection) : Answers :=
  ⟨a.rows ++ rows,
    { c.effect with rowsAffected := a.effect.rowsAffected + c.effect.rowsAffected }⟩

/-- Carry out statements one after another, up to the first fault, or only up to the
first row. -/
def Connection.carryOutAll (c : Connection) (untilRow : Bool)
    (arguments : List Driver.Argument) :
    Nat → Answers → List (List Token) → Except DatabaseError Answers × Connection
  | _, answers, [] => (.ok answers, c)
  | taken, answers, ts :: rest =>
      match c.bind arguments taken ts with
      | .error e => (.error e, c)
      | .ok (definite, parameters, taken) =>
          match c.carryOut parameters definite with
          | (.error e, c) => (.error (.engine e), c)
          | (.ok rows, c) =>
              let answers := answers.add rows c
              if untilRow && !rows.isEmpty then (.ok answers, c)
              else c.carryOutAll untilRow arguments taken answers rest

/-- Carry out the statements of a text: what they give or a fault, and the connection
after them. -/
def Connection.execute (c : Connection) (sql : String) (arguments : List Driver.Argument)
    (untilRow : Bool) : Except DatabaseError Answers × Connection :=
  c.carryOutAll untilRow arguments 0 {} (statements sql)

/-! ## The driver -/

/-- Connections as a driver. -/
def Connection.driver : Driver Connection (String × List Driver.Argument) ResultRow where
  query sql := (sql, [])
  bind q argument := (q.1, q.2 ++ [argument])
  fetchAll q c :=
    let (answers, c) := c.execute q.1 q.2 false
    (answers.map Answers.rows, c)
  fetchOptional q c :=
    let (answers, c) := c.execute q.1 q.2 true
    (answers.map fun a => a.rows.head?, c)
  execute q c :=
    let (answers, c) := c.execute q.1 q.2 false
    (answers.map Answers.effect, c)
  columns row := row.mapIdx fun i cell => ⟨i, cell.1⟩
  raw row i := (cellAt row i).map fun d => ⟨d.isNull, d.typeName⟩
  int64 row i := (cellAt row i).map Datum.asInteger
  float row i := (cellAt row i).map Datum.asReal
  bytes row i := (cellAt row i).map Datum.bytes
  bool row i := (cellAt row i).map fun d => d.asInteger != 0
  text := textAt

end SqlChain.Sqlite
