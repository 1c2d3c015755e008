import SqlChain.Client.Scripted
import SqlChain.Sqlite.Connection

/-!
# Pools of clients

The clients of a program: scripted ones, and SQLite connections known by their
number. The state of the pool is the state of its connections.
-/

namespace SqlChain

/-- A client of a pool. -/
inductive Client where
  | scripted (s : Script)
  | sqlite (connection : Nat)

/-- What a client of a pool is called. -/
def Client.name : Client → String
  | .scripted s => s.name
  | .sqlite _ => "sqlite"

/-- The state of a pool. -/
abbrev Pool := List Sqlite.Connection

namespace Pool

/-- Ask a connection of the pool. -/
def ask (pool : Pool) (connection : Nat) (s : Statement) (r : Request) :
    Except Error r.Answer × Pool :=
  match pool[connection]? with
  | none => (.error (.database .poolClosed), pool)
  | some c =>
      let (answer, c) := Sqlite.Connection.driver.client.answer r () s c
      (answer, pool.set connection c)

/-- The clients of a pool as a backend. -/
def backend : Backend Client Pool where
  prepare client sql pool :=
    match client with
    | .scripted s => ((Script.backend.prepare s sql ()).1, pool)
    | .sqlite _ => (.ok (), pool)
  answer r client statement pool :=
    match client with
    | .scripted s => ((Script.backend.answer r s statement ()).1, pool)
    | .sqlite n => pool.ask n statement r

end Pool

end SqlChain
