import SqlChain.Client.Scripted
import SqlChain.Proofs.Protocol
import SqlChain.Proofs.Reach
import SqlChain.Session

/-!
# The client of a query

A query may bring a client of its own, with the options of its root, or rely on the
default, which can be installed once. A session does all of this in any order: it makes
roots, calls on queries, runs them and installs a default in between. This file says
who is asked in the end.

The default is the first client that was installed, from then on and for good. A query
has the options of its root, whatever was called on it. And a query looks for its
client when it is run, not when it is made, so a default that came later serves it too.

What is refused before it is sent goes to nobody, and nobody is looked for: a query
that is not valid is told so also where there is no client.
-/

namespace SqlChain

variable {κ σ α β : Type}

/-! ## What an action sends -/

/-- The request that an action makes. -/
def Action.request : Action → Request
  | .all _ | .sql _ _ | .tableInfo _ | .tableList _ => .all
  | .first _ | .sqlFirst _ _ => .first
  | .run => .run

namespace Query

/-- The statement that an action sends. -/
def statementOf (q : Query κ) : Action → Statement
  | .all _ => q.statementFor .all
  | .first _ => q.statementFor .first
  | .run => q.statementFor .run
  | .sql s _ | .sqlFirst s _ => s
  | .tableInfo table => tableInfoStatement table
  | .tableList _ => tableListStatement

/-- What keeps an action from being sent: the verdict on the query, where it is asked
for, or a name that names no table. -/
def rejection? (q : Query κ) : Action → Option Violation
  | .all _ | .first _ | .run => q.violation?
  | .tableInfo table => Descriptor.checkText .tableInfo namesTable table
  | .sql _ _ | .sqlFirst _ _ | .tableList _ => none

end Query

/-- How an operation ends that sends `s` with the request `r`, where `rejection` keeps it
from being sent and `client` is the client that there is. No other client is called. -/
structure GoesTo (rejection : Option Violation) (client : Option κ) (s : Statement) (r : Request)
    (before : σ) (o : Outcome κ σ α) : Prop where
  rejected : ∀ v, rejection = some v →
    o.result = .error (.invalid v) ∧ (∀ c call, .called c call ∉ o.events) ∧ o.state = before
  unconfigured : rejection = none → client = none →
    o.result = .error (.configuration .noDatabase) ∧ o.events = [] ∧ o.state = before
  served : rejection = none → ∀ c, client = some c →
    o.events = [.executing s, .called c (.prepare s.sql)] ∨
      o.events = [.executing s, .called c (.prepare s.sql), .called c (.bind s.parameters),
        .called c (.request r)]

namespace GoesTo

variable {rejection : Option Violation} {client : Option κ} {s : Statement} {r : Request}
  {before : σ}

theorem of_protocol {b : Backend κ σ} {read : r.Answer → Except Error α} {o : Outcome κ σ α}
    (h : Protocol b rejection client s r read before o) :
    GoesTo rejection client s r before o where
  rejected v hv := by
    obtain ⟨hresult, hevents, hstate⟩ := h.rejected v hv
    refine ⟨hresult, fun c call hcalled => ?_, hstate⟩
    rw [hevents] at hcalled
    simp at hcalled
  unconfigured := h.unconfigured
  served hv c hc := by
    rcases hp : b.prepare c s.sql before with ⟨e | _, between⟩
    · exact .inl (h.refused hv c hc e between hp).2.1
    · exact .inr (h.answered hv c hc between _ _ hp rfl).2.1

/-- What is made of the result is no step that anyone sees. -/
theorem andThen {o : Outcome κ σ α} (h : GoesTo rejection client s r before o)
    (f : α → Except Error β) : GoesTo rejection client s r before (o.andThen f) where
  rejected v hv := by
    obtain ⟨hresult, hcalls, hstate⟩ := h.rejected v hv
    exact ⟨Outcome.result_andThen_of_error hresult f, hcalls, hstate⟩
  unconfigured hv hc := by
    obtain ⟨hresult, hevents, hstate⟩ := h.unconfigured hv hc
    exact ⟨Outcome.result_andThen_of_error hresult f, hevents, hstate⟩
  served := h.served

end GoesTo

namespace Query

theorem perform_goesTo (b : Backend κ σ) (fallback : Option κ) (q : Query κ) (r : Request)
    (s : Statement) (before : σ) :
    GoesTo none (q.options.database.or fallback) s r before (q.perform b fallback r s before) :=
  .of_protocol (perform_protocol b fallback q r s before)

theorem execute_goesTo (b : Backend κ σ) (fallback : Option κ) (q : Query κ) (r : Request)
    (before : σ) :
    GoesTo q.violation? (q.options.database.or fallback) (q.statementFor r) r before
      (q.execute b fallback r before) :=
  .of_protocol (execute_protocol b fallback q r before)

theorem tableInfo_goesTo (b : Backend κ σ) (fallback : Option κ) (q : Query κ) (table : String)
    (before : σ) :
    GoesTo (Descriptor.checkText .tableInfo namesTable table) (q.options.database.or fallback)
      (tableInfoStatement table) .all before (q.tableInfo b fallback table before) := by
  rw [tableInfo, Descriptor.checkText]
  split
  · exact (perform_goesTo b fallback q .all (tableInfoStatement table) before).andThen _
  · refine ⟨?_, fun hn => ?_, fun hn => ?_⟩
    · rintro _ ⟨⟩
      exact ⟨rfl, fun _ _ => List.not_mem_nil, rfl⟩
    all_goals cases hn

theorem act_goesTo (b : Backend κ σ) (fallback : Option κ) (q : Query κ) (before : σ)
    (a : Action) :
    GoesTo (q.rejection? a) (q.options.database.or fallback) (q.statementOf a) a.request before
      (q.act b fallback before a) := by
  -- each action is one of the three under what it makes of the answer
  cases a
  case all rows => exact ((execute_goesTo b fallback q .all before).andThen _).andThen _
  case first rows => exact ((execute_goesTo b fallback q .first before).andThen _).andThen _
  case run => exact (execute_goesTo b fallback q .run before).andThen _
  case sql s rows => exact ((perform_goesTo b fallback q .all s before).andThen _).andThen _
  case sqlFirst s rows =>
    exact ((perform_goesTo b fallback q .first s before).andThen _).andThen _
  case tableInfo table => exact (tableInfo_goesTo b fallback q table before).andThen _
  case tableList showAll =>
    exact (((perform_goesTo b fallback q .all _ before).andThen _).andThen _).andThen _

/-- No call, and no chain of calls, touches the options. -/
theorem options_of_chain {q r : Query κ} {ts : List Transition} (h : q.chain ts = .ok r) :
    r.options = q.options := by
  induction ts generalizing q with
  | nil =>
      cases h
      rfl
  | cons t ts ih =>
      obtain ⟨p, hp, hr⟩ := chain_cons_eq_ok_iff.mp h
      rw [ih hr, (apply_eq_ok_iff.mp hp).2]

end Query

/-! ## One step of a session -/

/-- The client that a step would install. -/
def Step.client? : Step κ → Option κ
  | .configure client => some client
  | _ => none

/-- The result of a step that runs a query. -/
def StepResult.ofReport : Except Error Report → StepResult κ
  | .ok report => .reported report
  | .error e => .failed e

namespace Session

variable {b : Backend κ σ} {p : Session κ σ} {s : Step κ} {n : Nat} {q : Query κ}

theorem step_fallback (b : Backend κ σ) (p : Session κ σ) (s : Step κ) :
    (p.step b s).2.2.fallback = p.fallback.or s.client? := by
  cases s
  case configure client =>
    rw [step]
    cases hp : p.fallback with
    | none => rfl
    | some c => exact hp
  case root => exact (Option.or_none).symm
  case derive source t =>
    refine Eq.trans ?_ (Option.or_none).symm
    rw [step]
    split
    · rfl
    · split <;> rfl
  case act source a =>
    refine Eq.trans ?_ (Option.or_none).symm
    rw [step]
    split <;> rfl

/-- `p.Makes s q`: in the session `p`, the step `s` makes the query `q`. -/
inductive Makes (p : Session κ σ) : Step κ → Query κ → Prop where
  | root (options : Options κ) : Makes p (.root options) (.ofOptions options)
  | derive {source : Nat} {t : Transition} {q r : Query κ} (hq : p.queries[source]? = some q)
      (hr : q.apply t = .ok r) : Makes p (.derive source t) r

/-- A step leaves the queries as they are, and may add one. -/
theorem step_queries (b : Backend κ σ) (p : Session κ σ) (s : Step κ) :
    (p.step b s).2.2.queries = p.queries ∨
      ∃ q, p.Makes s q ∧ (p.step b s).2.2.queries = p.queries ++ [q] := by
  cases s
  case root options => exact .inr ⟨_, .root options, rfl⟩
  case derive source t =>
    rw [step]
    cases hq : p.queries[source]? with
    | none => exact .inl rfl
    | some q =>
        dsimp only
        cases hr : q.apply t with
        | error e => exact .inl rfl
        | ok r => exact .inr ⟨r, .derive hq hr, rfl⟩
  case act source a =>
    rw [step]
    split <;> exact .inl rfl
  case configure client =>
    rw [step]
    split <;> exact .inl rfl

theorem step_act (b : Backend κ σ) (hq : p.queries[n]? = some q) (a : Action) :
    p.step b (.act n a) =
      (.ofReport (q.act b p.fallback p.state a).result, (q.act b p.fallback p.state a).events,
        { p with state := (q.act b p.fallback p.state a).state }) := by
  simp only [step, hq]
  cases (q.act b p.fallback p.state a).result <;> rfl

/-! ## A run -/

/-- The first client that steps install. -/
def installed (steps : List (Step κ)) : Option κ := steps.findSome? Step.client?

theorem run_cons (b : Backend κ σ) (p : Session κ σ) (s : Step κ) (steps : List (Step κ)) :
    (p.run b (s :: steps)).2 = ((p.step b s).2.2.run b steps).2 := rfl

theorem run_fallback (b : Backend κ σ) (p : Session κ σ) (steps : List (Step κ)) :
    (p.run b steps).2.fallback = p.fallback.or (installed steps) := by
  induction steps generalizing p with
  | nil => exact (Option.or_none).symm
  | cons s steps ih =>
      rw [run_cons, ih, step_fallback, Option.or_assoc, installed, installed, List.findSome?_cons]
      cases s.client? <;> rfl

theorem queries_isPrefix_run (b : Backend κ σ) (p : Session κ σ) (steps : List (Step κ)) :
    p.queries <+: (p.run b steps).2.queries := by
  induction steps generalizing p with
  | nil => exact List.prefix_rfl
  | cons s steps ih =>
      refine List.IsPrefix.trans ?_ (ih (p.step b s).2.2)
      rcases step_queries b p s with h | ⟨q, -, h⟩
      · exact h ▸ List.prefix_rfl
      · rw [h]
        exact List.prefix_append p.queries [q]

/-- The query has come out of a root that the steps made. -/
def Descends (steps : List (Step κ)) (q : Query κ) : Prop :=
  ∃ options ts, Step.root options ∈ steps ∧ (Query.ofOptions options).chain ts = .ok q

theorem Makes.descends {steps : List (Step κ)} (h : p.Makes s q) (hs : s ∈ steps)
    (hp : ∀ q ∈ p.queries, Descends steps q) : Descends steps q := by
  cases h
  case root options => exact ⟨options, [], hs, rfl⟩
  case derive source t q hq hr =>
    obtain ⟨options, ts, hroot, hchain⟩ := hp q (List.mem_of_getElem? hq)
    refine ⟨options, ts ++ [t], hroot, ?_⟩
    rw [Query.chain_concat, hchain]
    exact hr

theorem descends_of_mem_run {steps : List (Step κ)} (b : Backend κ σ) (p : Session κ σ)
    (hp : ∀ q ∈ p.queries, Descends steps q) {later : List (Step κ)}
    (hlater : ∀ s ∈ later, s ∈ steps) : ∀ q ∈ (p.run b later).2.queries, Descends steps q := by
  -- the steps to come grow fewer, those that roots are looked for in stay the same
  induction later generalizing p with
  | nil => exact hp
  | cons s later ih =>
      obtain ⟨hs, hlater⟩ := List.forall_mem_cons.mp hlater
      refine ih (p.step b s).2.2 ?_ hlater
      rcases step_queries b p s with h | ⟨q, hmakes, h⟩
      · rw [h]
        exact hp
      · rw [h]
        intro r hr
        rcases List.mem_append.mp hr with hr | hr
        · exact hp r hr
        · rw [List.mem_singleton.mp hr]
          exact hmakes.descends hs hp

theorem step_configure (b : Backend κ σ) (p : Session κ σ) (client : κ) :
    p.step b (.configure client) =
      match p.fallback with
      | none => (.reported .configured, [.defaultConfigured], { p with fallback := some client })
      | some _ => (.failed (.configuration .defaultAlreadySet), [], p) := by
  rw [step]
  cases p.fallback <;> rfl

/-- The default client of a session is the first one that was installed: the first
installation works, the others fail and change nothing. Queries stay what they are; each
has come out of a root and has the root's options, as has every query made of it. What
is done with a query goes to the client of these options, or else to the default that
there is by then, or else ends in a faulty setup, unless it is rejected before. -/
theorem run_clients (b : Backend κ σ) (state : σ) (steps : List (Step κ)) :
    let p := ((fresh state).run b steps).2
    p.fallback = installed steps ∧
      (∀ client, p.step b (.configure client) =
        match installed steps with
        | none => (.reported .configured, [.defaultConfigured], { p with fallback := some client })
        | some _ => (.failed (.configuration .defaultAlreadySet), [], p)) ∧
      (∀ client, installed steps = some client →
        ∀ later, (p.run b later).2.fallback = some client) ∧
      (∀ later, p.queries <+: (p.run b later).2.queries) ∧
      ∀ n q, p.queries[n]? = some q →
        .root q.options ∈ steps ∧
          (∃ ts, (Query.ofOptions q.options).chain ts = .ok q) ∧
          (∀ ts r, q.chain ts = .ok r → r.options = q.options) ∧
          ∀ a, ∃ o,
            p.step b (.act n a) = (.ofReport o.result, o.events, { p with state := o.state }) ∧
              GoesTo (q.rejection? a) (q.options.database.or (installed steps)) (q.statementOf a)
                a.request p.state o := by
  intro p
  have hfallback : p.fallback = installed steps := run_fallback b (fresh state) steps
  refine ⟨hfallback, ?configure, ?constant, queries_isPrefix_run b p, ?queries⟩
  case configure =>
    intro client
    rw [step_configure, hfallback]
  case constant =>
    intro client hc later
    rw [run_fallback, hfallback, hc, Option.some_or]
  case queries =>
    intro n q hq
    have hnone : ∀ q ∈ (fresh state : Session κ σ).queries, Descends steps q :=
      fun q hq => absurd hq List.not_mem_nil
    obtain ⟨options, ts, hroot, hchain⟩ :=
      descends_of_mem_run b (fresh state) hnone (fun s hs => hs) q (List.mem_of_getElem? hq)
    have hoptions : q.options = options := Query.options_of_chain hchain
    refine ⟨hoptions ▸ hroot, ⟨ts, hoptions ▸ hchain⟩, fun ts r => Query.options_of_chain, ?_⟩
    intro a
    refine ⟨_, step_act b hq a, ?_⟩
    rw [← hfallback]
    exact Query.act_goesTo b p.fallback q p.state a

/-- A default that comes after a query serves it, a second one does not take its place,
and a query with a client of its own has no use for either. -/
theorem run_clients_lifecycle :
    let steps : List (Step Script) :=
      [.root {}, .derive 0 (.fromTable "users"), .act 1 (.all .asIs),
        .configure { name := "first" }, .configure { name := "second" },
        .root { database := some { name := "own" }, table := some "posts" },
        .derive 2 (.limit 1)]
    let p := ((fresh ()).run Script.backend steps).2
    (∃ o, p.step Script.backend (.act 1 (.all .asIs)) =
          (.ofReport o.result, o.events, { p with state := o.state }) ∧
        GoesTo none (some { name := "first" }) ⟨"SELECT * FROM users", []⟩ .all p.state o) ∧
      ∃ o, p.step Script.backend (.act 3 .run) =
          (.ofReport o.result, o.events, { p with state := o.state }) ∧
        GoesTo none (some { name := "own" }) ⟨"SELECT * FROM posts LIMIT ?", [.integer 1]⟩ .run
          p.state o := by
  intro steps p
  obtain ⟨-, -, -, -, hqueries⟩ := run_clients Script.backend () steps
  obtain ⟨q, hq, hvalid, hown, hsent⟩ : ∃ q, p.queries[1]? = some q ∧ q.violation? = none ∧
      q.options.database = none ∧
      q.statementOf (.all .asIs) = ⟨"SELECT * FROM users", []⟩ :=
    ⟨_, rfl, by decide, rfl, by decide⟩
  obtain ⟨r, hr, hvalid', hown', hsent'⟩ : ∃ r, p.queries[3]? = some r ∧ r.violation? = none ∧
      r.options.database = some { name := "own" } ∧
      r.statementOf .run = ⟨"SELECT * FROM posts LIMIT ?", [.integer 1]⟩ :=
    ⟨_, rfl, by decide, rfl, by decide⟩
  constructor
  · obtain ⟨o, hstep, hgoes⟩ := (hqueries 1 q hq).2.2.2 (.all .asIs)
    rw [Query.rejection?, hvalid, hown, hsent] at hgoes
    exact ⟨o, hstep, hgoes⟩
  · obtain ⟨o, hstep, hgoes⟩ := (hqueries 3 r hr).2.2.2 .run
    rw [Query.rejection?, hvalid', hown', hsent'] at hgoes
    exact ⟨o, hstep, hgoes⟩

/-- A query that is not valid is told so, and not that there is no client. -/
theorem exists_rejected_without_client :
    ¬ ∀ (steps : List (Step Script)) (n : Nat) (q : Query Script) (a : Action),
      let p := ((fresh ()).run Script.backend steps).2
      p.queries[n]? = some q → q.options.database.or (installed steps) = none →
        (p.step Script.backend (.act n a)).1 = .failed (.configuration .noDatabase) := by
  intro h
  have hconfiguration := h [.root {}] 0 .new (.all .asIs) rfl rfl
  have hrejected : (((fresh ()).run Script.backend [.root {}]).2.step Script.backend
      (.act 0 (.all .asIs))).1 = .failed (.invalid .emptyQuery) := rfl
  rw [hrejected] at hconfiguration
  cases hconfiguration

end Session

end SqlChain
