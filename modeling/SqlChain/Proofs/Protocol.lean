import SqlChain.Execution

/-!
# The protocol of an operation

There are five ways to run a statement, and one course that they all take. A query
that is not valid is told to the log and goes no further; without a client nothing
happens at all; and a client sees the statement that the log has seen, once, and
one request if it takes the statement. Whatever a client answers is passed on. Three
things can go wrong, and the order of the steps says which of them is told.

Nothing is known of the clients. They may answer as they like at both stages, and what
they remember may change with each call, `before` and `after` standing for it.
-/

namespace SqlChain

variable {κ σ α : Type}

/-- What the log says of an operation. -/
def Outcome.log (o : Outcome κ σ α) : List LogEntry := o.events.filterMap Event.logEntry?

/-- The course of an operation that sends the statement `s` with the request `r` and
reads the answer with `read`. `violation` is what the validator has against it, where
it is asked, and `client` the client that there is. -/
structure Protocol (b : Backend κ σ) (violation : Option Violation) (client : Option κ)
    (s : Statement) (r : Request) (read : r.Answer → Except Error α) (before : σ)
    (o : Outcome κ σ α) : Prop where
  rejected : ∀ v, violation = some v →
    o.result = .error (.invalid v) ∧ o.events = [.rejected v] ∧ o.state = before
  unconfigured : violation = none → client = none →
    o.result = .error (.configuration .noDatabase) ∧ o.events = [] ∧ o.state = before
  refused : violation = none → ∀ c, client = some c →
    ∀ e after, b.prepare c s.sql before = (.error e, after) →
      o.result = .error e ∧ o.events = [.executing s, .called c (.prepare s.sql)] ∧
        o.state = after
  answered : violation = none → ∀ c, client = some c →
    ∀ between answer after, b.prepare c s.sql before = (.ok (), between) →
      b.answer r c s between = (answer, after) →
        o.result = answer.bind read ∧
          o.events = [.executing s, .called c (.prepare s.sql), .called c (.bind s.parameters),
            .called c (.request r)] ∧
          o.state = after
  logged : violation = none → client ≠ none →
    o.log = [⟨"DEBUG", "executing statement",
      [s.sql, (Json.array (s.parameters.map Value.toJson)).print]⟩]

namespace Protocol

variable {b : Backend κ σ} {violation : Option Violation} {client : Option κ} {s : Statement}
  {r : Request} {before : σ}

/-- Reading the answer is no step that anyone sees. -/
theorem andThen {o : Outcome κ σ r.Answer}
    (h : Protocol b violation client s r .ok before o) (read : r.Answer → Except Error α) :
    Protocol b violation client s r read before (o.andThen read) where
  rejected v hv := by
    obtain ⟨hresult, hevents, hstate⟩ := h.rejected v hv
    exact ⟨Outcome.result_andThen_of_error hresult read, hevents, hstate⟩
  unconfigured hv hc := by
    obtain ⟨hresult, hevents, hstate⟩ := h.unconfigured hv hc
    exact ⟨Outcome.result_andThen_of_error hresult read, hevents, hstate⟩
  refused hv c hc e after hp := by
    obtain ⟨hresult, hevents, hstate⟩ := h.refused hv c hc e after hp
    exact ⟨Outcome.result_andThen_of_error hresult read, hevents, hstate⟩
  answered hv c hc between answer after hp ha := by
    obtain ⟨hresult, hevents, hstate⟩ := h.answered hv c hc between answer after hp ha
    refine ⟨?_, hevents, hstate⟩
    rw [Outcome.andThen, hresult]
    cases answer <;> rfl
  logged := h.logged

end Protocol

namespace Query

theorem perform_protocol (b : Backend κ σ) (fallback : Option κ) (q : Query κ) (r : Request)
    (s : Statement) (before : σ) :
    Protocol b none (q.options.database.or fallback) s r .ok before
      (q.perform b fallback r s before) := by
  rw [← client?_eq_or]
  refine ⟨?rejected, ?unconfigured, ?refused, ?answered, ?logged⟩
  case rejected =>
    intro v hv
    cases hv
  case unconfigured =>
    intro _ hc
    rw [perform_of_no_client hc]
    exact ⟨rfl, rfl, rfl⟩
  case refused =>
    intro _ c hc e after hp
    rw [perform_of_refused hc hp]
    exact ⟨rfl, rfl, rfl⟩
  case answered =>
    intro _ c hc between answer after hp ha
    rw [perform_of_prepared hc hp ha]
    refine ⟨?_, rfl, rfl⟩
    cases answer <;> rfl
  case logged =>
    intro _ hc
    obtain ⟨c, hc⟩ := Option.ne_none_iff_exists'.mp hc
    -- both outcomes of the preparation come after the entry
    rcases hp : b.prepare c s.sql before with ⟨e | _, between⟩
    · rw [perform_of_refused hc hp]
      rfl
    · rw [perform_of_prepared hc hp (Eq.refl (b.answer r c s between))]
      rfl

theorem execute_protocol (b : Backend κ σ) (fallback : Option κ) (q : Query κ) (r : Request)
    (before : σ) :
    Protocol b q.violation? (q.options.database.or fallback) (q.statementFor r) r .ok before
      (q.execute b fallback r before) := by
  cases hv : q.violation? with
  | none =>
      rw [execute_of_isValid hv]
      exact perform_protocol b fallback q r (q.statementFor r) before
  | some v =>
      rw [execute_of_violation hv]
      refine ⟨?rejected, ?_, ?_, ?_, ?_⟩
      case rejected =>
        rintro _ ⟨⟩
        exact ⟨rfl, rfl, rfl⟩
      -- everything else is for a query that is valid
      all_goals
        intro hn
        cases hn

/-- The operations on a query keep to the protocol, over any backend. The three that run
the query ask the validator first and send what the compiler has made of it, with
` RETURNING *` where rows are wanted of a statement that does not read; the two that run
a statement of the caller's ask nobody and send it as it is. -/
theorem operations_protocol (b : Backend κ σ) (fallback : Option κ) (q : Query κ)
    (read : RowReader α) (s : Statement) (before : σ) :
    let client := q.options.database.or fallback
    let returning : Statement :=
      ⟨q.compile.sql ++ (if q.descriptor.effectiveMode = some .select then "" else " RETURNING *"),
        q.compile.parameters⟩
    Protocol b q.violation? client returning .all (readRows read) before
        (q.all b fallback read before) ∧
      Protocol b q.violation? client returning .first (readFirst read) before
        (q.first b fallback read before) ∧
      Protocol b q.violation? client q.compile .run .ok before (q.run b fallback before) ∧
      Protocol b none client s .all (readRows read) before (q.rawAll b fallback read s before) ∧
      Protocol b none client s .first (readFirst read) before
        (q.rawFirst b fallback read s before) := by
  intro client returning
  refine ⟨?all, ?first, ?run, ?rawAll, ?rawFirst⟩
  case all =>
    have h := execute_protocol b fallback q .all before
    rw [statementFor_of_wantsRows q rfl] at h
    exact h.andThen (readRows read)
  case first =>
    have h := execute_protocol b fallback q .first before
    rw [statementFor_of_wantsRows q rfl] at h
    exact h.andThen (readFirst read)
  case run =>
    have h := execute_protocol b fallback q .run before
    rw [statementFor_run] at h
    exact h
  case rawAll =>
    exact (perform_protocol b fallback q .all s before).andThen (readRows read)
  case rawFirst =>
    exact (perform_protocol b fallback q .first s before).andThen (readFirst read)

end Query

end SqlChain
