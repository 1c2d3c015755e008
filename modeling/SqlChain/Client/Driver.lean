import SqlChain.Client.Basic

/-!
# Clients over a driver

A client that runs its statements through the driver of a database engine. The driver is
not part of the client: it is whatever offers these functions over a state of type `σ`,
with queries of type `θ` and rows of type `ρ`. What the client does itself is little. It
hands over values by what they are, one after another, and it reads a row cell by cell,
each as the type that the driver names for it.
-/

namespace SqlChain

open Decimal (Binary64)

namespace Driver

/-- What is handed to a driver for a parameter. -/
inductive Argument where
  /-- An integer that is not there. -/
  | noInteger
  | integer (n : Int64)
  | real (x : Binary64)
  | text (s : String)
  | bytes (bs : List UInt8)
deriving DecidableEq, Repr

/-- A column of a row: its place and its name. -/
structure Column where
  ordinal : Nat
  name : String
deriving DecidableEq, Repr

/-- A cell before it is read: whether it is empty, and the name of its type. -/
structure Raw where
  isNull : Bool
  typeName : String
deriving DecidableEq, Repr

/-- What a driver tells of a statement that gives no rows. -/
structure Effect where
  rowsAffected : UInt64 := 0
  lastInsertRowid : Int64 := 0
deriving DecidableEq, Repr

/-- The argument for a value. -/
def Argument.ofValue : Value → Argument
  | .null => .noInteger
  | .integer n => .integer n
  | .real x => .real x
  | .text s => .text s
  | .blob bs => .bytes bs

end Driver

/-- A driver: queries are made from a text, take arguments, and run on a state; rows tell
their columns, and give a cell as the type that it is asked for. -/
structure Driver (σ θ ρ : Type) where
  query : String → θ
  bind : θ → Driver.Argument → θ
  fetchAll : θ → σ → Except DatabaseError (List ρ) × σ
  fetchOptional : θ → σ → Except DatabaseError (Option ρ) × σ
  execute : θ → σ → Except DatabaseError Driver.Effect × σ
  columns : ρ → List Driver.Column
  raw : ρ → Nat → Except DatabaseError Driver.Raw
  int64 : ρ → Nat → Except DatabaseError Int64
  float : ρ → Nat → Except DatabaseError Binary64
  bytes : ρ → Nat → Except DatabaseError (List UInt8)
  bool : ρ → Nat → Except DatabaseError Bool
  text : ρ → Nat → Except DatabaseError String

namespace Driver

variable {σ θ ρ : Type}

/-- Hand values to a query, in their order. -/
def bindValues (d : Driver σ θ ρ) (q : θ) (values : List Value) : θ :=
  values.foldl (fun q v => d.bind q (.ofValue v)) q

/-- The query of a statement. -/
def queryOf (d : Driver σ θ ρ) (s : Statement) : θ := d.bindValues (d.query s.sql) s.parameters

/-- A cell in JSON, by the name of its type. -/
def readCell (d : Driver σ θ ρ) (row : ρ) (i : Nat) : Except DatabaseError Json := do
  let raw ← d.raw row i
  if raw.isNull then return .null
  match raw.typeName with
  | "INTEGER" => return .int (← d.int64 row i).toInt
  | "REAL" => return .real (← d.float row i)
  | "BLOB" => return .bytes (← d.bytes row i)
  | "BOOLEAN" => return .bool (← d.bool row i)
  | _ => return .text (← d.text row i)

/-- A row in JSON. A repeated name keeps its first place and its last value. -/
def readRow (d : Driver σ θ ρ) (row : ρ) : Except DatabaseError Row :=
  (d.columns row).foldlM
    (fun object column => return Keyed.put object column.name (← d.readCell row column.ordinal)) []

/-- The effect of a statement. A row id of zero is none. -/
def Effect.result (e : Effect) : RunResult :=
  ⟨e.rowsAffected, (some e.lastInsertRowid).filter (· ≠ 0)⟩

/-- The answer to a request, and the state after it. -/
def answer (d : Driver σ θ ρ) (s : Statement) (before : σ) :
    (r : Request) → Except DatabaseError r.Answer × σ
  | .all =>
      let (rows, after) := d.fetchAll (d.queryOf s) before
      (rows >>= fun rows => rows.mapM d.readRow, after)
  | .first =>
      let (row, after) := d.fetchOptional (d.queryOf s) before
      (row >>= fun row => row.mapM d.readRow, after)
  | .run =>
      let (effect, after) := d.execute (d.queryOf s) before
      (effect.map Effect.result, after)

/-- The client over a driver. It keeps a statement as it is until it is run, so preparing
never fails. -/
def client (d : Driver σ θ ρ) : Backend Unit σ where
  prepare _ _ before := (.ok (), before)
  answer r _ s before :=
    let (answer, after) := d.answer s before r
    (answer.mapError .database, after)

end Driver

end SqlChain
