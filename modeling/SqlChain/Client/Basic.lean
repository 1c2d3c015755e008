import SqlChain.Error.Basic
import SqlChain.Shape.Struct
import SqlChain.Statement
import SqlChain.Value.Json

/-!
# Clients

A client prepares a statement, takes its parameters and answers one of three
requests: all rows, the first row, or the effect alone. A backend says how
clients of a type `κ` answer over a state of type `σ`, which stands for
whatever they remember. Nothing is assumed of it: it may refuse at either
stage, and its state may change even then.
-/

namespace SqlChain

/-- A row: columns and their values in JSON, in column order. -/
abbrev Row := List (String × Json)

/-- The effect of a statement. -/
structure RunResult where
  rowsAffected : UInt64 := 0
  lastInsertId : Option Int64 := none
deriving DecidableEq, Repr, Inhabited

namespace RunResult

/-- The effect as a structure. -/
def struct : Struct where
  name := "RunResult"
  fields := [⟨"rows_affected", .uint64⟩, ⟨"last_insert_id", .optional .int64⟩]
  defaults := none

/-- Read an effect. -/
def read (j : Json) : Except Mismatch RunResult :=
  (struct.read j).map fun (affected, id, ()) => ⟨affected, id⟩

/-- Write an effect. -/
def toJson (r : RunResult) : Json := struct.write (r.rowsAffected, r.lastInsertId, ())

end RunResult

/-- What can be asked of a bound statement. -/
inductive Request where
  | all
  | first
  | run
deriving DecidableEq, Repr

namespace Request

/-- The answer to a request. -/
def Answer : Request → Type
  | .all => List Row
  | .first => Option Row
  | .run => RunResult

/-- Whether the request asks for rows. -/
def wantsRows : Request → Bool
  | .all => true
  | .first => true
  | .run => false

end Request

/-- How clients answer. -/
structure Backend (κ σ : Type) where
  prepare : κ → String → σ → Except Error Unit × σ
  answer : (r : Request) → κ → Statement → σ → Except Error r.Answer × σ

/-- The calls that a client receives. -/
inductive Call where
  | prepare (sql : String)
  | bind (parameters : List Value)
  | request (r : Request)
deriving DecidableEq, Repr

/-- What can be seen of an operation from outside, besides its result. -/
inductive Event (κ : Type) where
  | rejected (v : Violation)
  | executing (s : Statement)
  | defaultConfigured
  | called (client : κ) (call : Call)
deriving DecidableEq, Repr

/-- A line of the log: how grave it is, what has happened, and to what. -/
structure LogEntry where
  level : String
  message : String
  fields : List String
deriving DecidableEq, Repr

/-- What the log says of an event. The parameters of a statement are one JSON array;
the calls of a client are no concern of the log. -/
def Event.logEntry? {κ : Type} : Event κ → Option LogEntry
  | .rejected v => some ⟨"DEBUG", "query rejected by validator", [v.message]⟩
  | .executing s =>
      some ⟨"DEBUG", "executing statement",
        [s.sql, (Json.array (s.parameters.map Value.toJson)).print]⟩
  | .defaultConfigured => some ⟨"INFO", "default database configured", []⟩
  | .called _ _ => none

/-- What an operation ends in: a result, the events on the way, and the state
that it leaves. -/
structure Outcome (κ σ α : Type) where
  result : Except Error α
  events : List (Event κ)
  state : σ

/-- Go on with the result of an operation, without another event. -/
def Outcome.andThen {κ σ α β : Type} (o : Outcome κ σ α) (f : α → Except Error β) :
    Outcome κ σ β :=
  ⟨o.result.bind f, o.events, o.state⟩

theorem Outcome.result_andThen_of_error {κ σ α β : Type} {o : Outcome κ σ α} {e : Error}
    (h : o.result = .error e) (f : α → Except Error β) : (o.andThen f).result = .error e := by
  rw [andThen, h]
  rfl

end SqlChain
