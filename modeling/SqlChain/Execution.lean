import SqlChain.Client.Basic
import SqlChain.Query.Basic

/-!
# Execution

A query is validated, compiled and handed to a client: its own, or else the
default one. The client sees one `prepare`, and if that succeeds one `bind` and
one request; its errors are passed on as they are. Whoever reads the log sees
the statement before the client does.
-/

namespace SqlChain

variable {κ σ α : Type}

namespace Query

/-- The client of a query: that of its root, or else the default. -/
def client? (q : Query κ) (fallback : Option κ) : Option κ := q.options.database <|> fallback

/-- Hand a statement to the client of the query, unseen by the validator. -/
def perform (b : Backend κ σ) (fallback : Option κ) (q : Query κ) (r : Request) (s : Statement)
    (state : σ) : Outcome κ σ r.Answer :=
  match q.client? fallback with
  | none => ⟨.error (.configuration .noDatabase), [], state⟩
  | some c =>
      match b.prepare c s.sql state with
      | (.error e, state) => ⟨.error e, [.executing s, .called c (.prepare s.sql)], state⟩
      | (.ok (), state) =>
          let (answer, state) := b.answer r c s state
          ⟨answer,
            [.executing s, .called c (.prepare s.sql), .called c (.bind s.parameters),
              .called c (.request r)],
            state⟩

/-- The statement that answers a request. A statement that changes rows returns
them where rows are wanted. -/
def statementFor (q : Query κ) (r : Request) : Statement :=
  let s := q.compile
  if r.wantsRows ∧ q.descriptor.effectiveMode ≠ some .select then
    { s with sql := s.sql ++ " RETURNING *" }
  else s

/-- Validate the query and hand its statement to its client. -/
def execute (b : Backend κ σ) (fallback : Option κ) (q : Query κ) (r : Request) (state : σ) :
    Outcome κ σ r.Answer :=
  match q.violation? with
  | some v => ⟨.error (.invalid v), [.rejected v], state⟩
  | none => q.perform b fallback r (q.statementFor r) state

section

variable {b : Backend κ σ} {fallback : Option κ} {q : Query κ} {r : Request} {state : σ}

/-- An invalid query is told to the log and to nobody else. -/
theorem execute_of_violation {v : Violation} (hv : q.violation? = some v) :
    q.execute b fallback r state = ⟨.error (.invalid v), [.rejected v], state⟩ := by
  rw [execute, hv]

theorem execute_of_isValid (hv : q.descriptor.IsValid) :
    q.execute b fallback r state = q.perform b fallback r (q.statementFor r) state := by
  have h : q.violation? = none := hv
  rw [execute, h]

theorem client?_eq_or : q.client? fallback = q.options.database.or fallback := by
  rw [client?, Option.orElse_eq_orElse, Option.orElse_eq_or]

theorem perform_of_no_client (hc : q.client? fallback = none) (s : Statement) :
    q.perform b fallback r s state = ⟨.error (.configuration .noDatabase), [], state⟩ := by
  rw [perform, hc]

theorem perform_of_refused {s : Statement} {c : κ} {e : Error} {after : σ}
    (hc : q.client? fallback = some c) (hp : b.prepare c s.sql state = (.error e, after)) :
    q.perform b fallback r s state =
      ⟨.error e, [.executing s, .called c (.prepare s.sql)], after⟩ := by
  rw [perform, hc]
  dsimp only
  rw [hp]

theorem perform_of_prepared {s : Statement} {c : κ} {between after : σ}
    {answer : Except Error r.Answer} (hc : q.client? fallback = some c)
    (hp : b.prepare c s.sql state = (.ok (), between))
    (ha : b.answer r c s between = (answer, after)) :
    q.perform b fallback r s state =
      ⟨answer,
        [.executing s, .called c (.prepare s.sql), .called c (.bind s.parameters),
          .called c (.request r)],
        after⟩ := by
  have hanswer : (b.answer r c s between).1 = answer := by rw [ha]
  have hafter : (b.answer r c s between).2 = after := by rw [ha]
  rw [perform, hc, ← hanswer, ← hafter]
  dsimp only
  rw [hp]

/-- What a client is asked to prepare is the text that was handed over. -/
theorem sql_eq_of_mem_perform {s : Statement} {client : κ} {sql : String}
    (h : .called client (.prepare sql) ∈ (q.perform b fallback r s state).events) :
    sql = s.sql := by
  rw [perform] at h
  split at h
  · cases h
  · split at h
    · simp only [List.mem_cons, List.not_mem_nil, reduceCtorEq, Event.called.injEq,
        Call.prepare.injEq, false_or, or_false] at h
      exact h.2
    · simp only [List.mem_cons, List.not_mem_nil, reduceCtorEq, Event.called.injEq,
        Call.prepare.injEq, and_false, false_or, or_false] at h
      exact h.2

theorem statementFor_run (q : Query κ) : q.statementFor .run = q.compile := by
  rw [statementFor, if_neg]
  rintro ⟨hr, -⟩
  cases hr

/-- What is sent for rows is the compiled statement, and one that changes rows is asked
to return them. -/
theorem statementFor_of_wantsRows (q : Query κ) (hr : r.wantsRows = true) :
    q.statementFor r =
      ⟨q.compile.sql ++ (if q.descriptor.effectiveMode = some .select then "" else " RETURNING *"),
        q.compile.parameters⟩ := by
  rw [statementFor]
  by_cases hm : q.descriptor.effectiveMode = some .select
  · rw [if_pos hm, if_neg (fun h => h.2 hm), String.append_empty]
  · rw [if_neg hm, if_pos ⟨hr, hm⟩]

/-- The statement that is sent is the compiled one, perhaps with an addition at
its end. -/
theorem exists_sql_statementFor (q : Query κ) (r : Request) :
    ∃ suffix, (q.statementFor r).sql = q.sql ++ suffix := by
  rw [statementFor]
  split
  · exact ⟨" RETURNING *", rfl⟩
  · exact ⟨"", (String.append_empty).symm⟩

end

end Query

/-! ## Rows as data -/

/-- How rows are read as data. -/
abbrev RowReader (α : Type) := Row → Except Mismatch α

/-- Read one row; what does not fit is an error of serialization. -/
def readRow (read : RowReader α) (row : Row) : Except Error α :=
  (read row).mapError fun m => .serialization (.mismatch m)

/-- Read all rows, in order, up to the first that does not fit. -/
def readRows (read : RowReader α) (rows : List Row) : Except Error (List α) :=
  rows.mapM (readRow read)

/-- Read a row that may not be there. -/
def readFirst (read : RowReader α) : Option Row → Except Error (Option α)
  | none => .ok none
  | some row => (readRow read row).map some

namespace Query

/-- Run the query for all its rows. -/
def all (b : Backend κ σ) (fallback : Option κ) (read : RowReader α) (q : Query κ) (state : σ) :
    Outcome κ σ (List α) :=
  (q.execute b fallback .all state).andThen (readRows read)

/-- Run the query for its first row. -/
def first (b : Backend κ σ) (fallback : Option κ) (read : RowReader α) (q : Query κ) (state : σ) :
    Outcome κ σ (Option α) :=
  (q.execute b fallback .first state).andThen (readFirst read)

/-- Run the query for its effect. -/
def run (b : Backend κ σ) (fallback : Option κ) (q : Query κ) (state : σ) :
    Outcome κ σ RunResult :=
  q.execute b fallback .run state

/-- Run a statement of the caller's for all its rows. -/
def rawAll (b : Backend κ σ) (fallback : Option κ) (read : RowReader α) (s : Statement)
    (q : Query κ) (state : σ) : Outcome κ σ (List α) :=
  (q.perform b fallback .all s state).andThen (readRows read)

/-- Run a statement of the caller's for its first row. -/
def rawFirst (b : Backend κ σ) (fallback : Option κ) (read : RowReader α) (s : Statement)
    (q : Query κ) (state : σ) : Outcome κ σ (Option α) :=
  (q.perform b fallback .first s state).andThen (readFirst read)

end Query

end SqlChain
