import SqlChain.Query.Transition
import SqlChain.Schema

/-!
# Sessions

A session holds the queries made so far, the default client once there is one,
and the state of all clients. It goes on by steps: a root is made, a chain makes
another query of an earlier one, a query is run, or the default client is
configured, which works once.
-/

namespace SqlChain

/-- How rows are read: as they are, or as a structure. -/
inductive RowType where
  | asIs
  | struct (s : Struct)

/-- Read a row and write it again, as the type has it. -/
def RowType.reader : RowType → RowReader Json
  | .asIs => fun row => .ok (.object row)
  | .struct s => fun row => (s.read (.object row)).map s.write

/-- What can be done with a query. -/
inductive Action where
  | all (rows : RowType)
  | first (rows : RowType)
  | run
  | sql (s : Statement) (rows : RowType)
  | sqlFirst (s : Statement) (rows : RowType)
  | tableInfo (table : String)
  | tableList (showAll : Bool)

/-- What an action ends in when it succeeds. -/
inductive Report where
  | rows (rows : List Json)
  | row (row : Option Json)
  | ran (result : RunResult)
  | columns (columns : List ColumnInfo)
  | tables (tables : List TableEntry)
  | configured

variable {κ σ : Type}

/-- Do something with a query. -/
def Query.act (b : Backend κ σ) (fallback : Option κ) (q : Query κ) (state : σ) :
    Action → Outcome κ σ Report
  | .all rows => (q.all b fallback rows.reader state).andThen (.ok ∘ .rows)
  | .first rows => (q.first b fallback rows.reader state).andThen (.ok ∘ .row)
  | .run => (q.run b fallback state).andThen (.ok ∘ .ran)
  | .sql s rows => (q.rawAll b fallback rows.reader s state).andThen (.ok ∘ .rows)
  | .sqlFirst s rows => (q.rawFirst b fallback rows.reader s state).andThen (.ok ∘ .row)
  | .tableInfo table => (q.tableInfo b fallback table state).andThen (.ok ∘ .columns)
  | .tableList showAll => (q.tableList b fallback showAll state).andThen (.ok ∘ .tables)

/-- A running program. Queries are numbered in the order of their making. -/
structure Session (κ σ : Type) where
  queries : List (Query κ)
  fallback : Option κ
  state : σ

/-- What a session can do next. -/
inductive Step (κ : Type) where
  | root (options : Options κ)
  | derive (source : Nat) (t : Transition)
  | act (source : Nat) (a : Action)
  | configure (client : κ)

/-- What a step ends in. -/
inductive StepResult (κ : Type) where
  | made (q : Query κ)
  | refused (e : ChainError)
  | reported (r : Report)
  | failed (e : Error)
  | noQuery

namespace Session

/-- A session in which nothing has been done. -/
def fresh (state : σ) : Session κ σ := ⟨[], none, state⟩

/-- A session with one root. -/
def start (root : Query κ) (state : σ) : Session κ σ := ⟨[root], none, state⟩

/-- Take a step: its result, its events and the session after it. -/
def step (b : Backend κ σ) (p : Session κ σ) : Step κ → StepResult κ × List (Event κ) × Session κ σ
  | .root options =>
      (.made (.ofOptions options), [], { p with queries := p.queries ++ [.ofOptions options] })
  | .derive source t =>
      match p.queries[source]? with
      | none => (.noQuery, [], p)
      | some q =>
          match q.apply t with
          | .ok made => (.made made, [], { p with queries := p.queries ++ [made] })
          | .error e => (.refused e, [], p)
  | .act source a =>
      match p.queries[source]? with
      | none => (.noQuery, [], p)
      | some q =>
          let o := q.act b p.fallback p.state a
          let result := match o.result with
            | .ok r => .reported r
            | .error e => .failed e
          (result, o.events, { p with state := o.state })
  | .configure client =>
      match p.fallback with
      | some _ => (.failed (.configuration .defaultAlreadySet), [], p)
      | none => (.reported .configured, [.defaultConfigured], { p with fallback := some client })

/-- Take steps one after another; the events of all. -/
def run (b : Backend κ σ) (p : Session κ σ) : List (Step κ) → List (Event κ) × Session κ σ
  | [] => ([], p)
  | s :: steps =>
      let (_, events, p) := p.step b s
      let (later, p) := run b p steps
      (events ++ later, p)

end Session

end SqlChain
