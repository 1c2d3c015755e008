import Mathlib.Data.List.Basic
import SqlChain.Proofs.Reach

/-!
# Values are not to be seen in a statement

Whoever reads the text of a statement learns nothing of the values it was made
with. That is a fact about two runs, the same calls with other values, and it is
proved with one: redaction. To redact a call is to put null for its values and
zero for its counts, and, under the bound style, nothing for the texts that are
sent as parameters; all else stays. A redacted descriptor has the text of the
one it was made of, as many parameters, and the same verdict. And redaction goes
through a call: it makes no difference whether one redacts before it or after.
So two chains that redact to the same calls cannot be told apart.
-/

namespace SqlChain

/-! ## Redaction -/

/-- The text of an expression, where it is written out; under the bound style it
is a parameter and goes. -/
def ClauseStyle.redact : ClauseStyle → String → String
  | .bound, _ => ""
  | .inline, text => text

/-- The same columns, without their values. -/
def Record.redact (r : Record) : Record where
  fields := r.fields.map fun field => (field.1, .null)
  distinct := by
    rw [Keyed.keys, List.map_map]
    exact r.distinct

/-- The same condition, without its value. That there is one is no secret. -/
def Condition.redact (c : Condition) : Condition := { c with value := c.value.map fun _ => .null }

/-- The same condition as a caller gives it, without its value. -/
def ConditionArg.redact : ConditionArg → ConditionArg
  | .compare column operator _ => .compare column operator .null
  | .ask column operator => .ask column operator
  | .exact condition => .exact condition.redact

/-- The same call, without what is sent as a parameter. -/
def Transition.redact (style : ClauseStyle) : Transition → Transition
  | .filter condition => .filter condition.redact
  | .extend connective condition => .extend connective condition.redact
  | .groupBy columns => .groupBy (match style with | .bound => [] | .inline => columns)
  | .having expression => .having (style.redact expression)
  | .orderBy term => .orderBy (match style with | .bound => .written "" | .inline => term)
  | .limit _ => .limit 0
  | .offset _ => .offset 0
  | .insertInto table data => .insertInto table data.redact
  | .set data => .set data.redact
  | t => t

/-- The same descriptor, without what is sent as a parameter. -/
def Descriptor.redact (d : Descriptor) : Descriptor :=
  { d with
    whereParameters := d.whereParameters.map fun _ => .null
    groupBy := d.groupBy.map d.clauseStyle.redact
    having := d.having.map d.clauseStyle.redact
    orderBy := d.orderBy.map d.clauseStyle.redact
    limit := d.limit.map fun _ => 0
    offset := d.offset.map fun _ => 0
    setParameters := d.setParameters.map fun _ => .null
    insertParameters := d.insertParameters.map fun _ => .null }

theorem ClauseStyle.redact_inline : ClauseStyle.redact .inline = id := rfl

/-! ## Redaction goes through a call -/

theorem Record.columns_redact (r : Record) : r.redact.columns = r.columns := by
  simp [redact, columns, Keyed.keys]

theorem Record.values_redact (r : Record) : r.redact.values = r.values.map fun _ => .null := by
  simp [redact, values, Keyed.values]

theorem Record.assignments_redact (r : Record) : r.redact.assignments = r.assignments := by
  rw [assignments, columns_redact, assignments]

theorem Condition.sql_redact (c : Condition) : c.redact.sql = c.sql := by
  obtain ⟨column, operator, value⟩ := c
  cases value <;> rfl

theorem Condition.values_redact (c : Condition) :
    c.redact.values = c.values.map fun _ => .null := by
  obtain ⟨column, operator, value⟩ := c
  cases value <;> rfl

/-- An operator that takes no value drops the null as it drops any other. -/
theorem Condition.compare_null (column : String) (operator : Operator) (value : Value) :
    compare column operator .null = (compare column operator value).redact := by
  simp only [compare, redact]
  split <;> rfl

theorem ConditionArg.resolve_redact (c : ConditionArg) :
    c.redact.resolve = c.resolve.map Condition.redact := by
  cases c with
  | exact condition => rfl
  | ask column operator =>
      simp only [redact, resolve]
      cases operator.resolve <;> rfl
  | compare column operator value =>
      simp only [redact, resolve]
      cases operator.resolve with
      | error e => rfl
      | ok o => exact congrArg Except.ok (Condition.compare_null column o value)

namespace Descriptor

theorem filter_redact (d : Descriptor) (c : Condition) :
    d.redact.filter c.redact = (d.filter c).redact := by
  simp only [filter, redact, Condition.sql_redact, Condition.values_redact, List.map_append]

theorem extend_redact (d : Descriptor) (predicate : String) (connective : Connective)
    (c : Condition) :
    d.redact.extend predicate connective c.redact = (d.extend predicate connective c).redact := by
  simp only [extend, redact, Condition.sql_redact, Condition.values_redact, List.map_append]

theorem apply_redact (d : Descriptor) (t : Transition) :
    d.redact.apply (t.redact d.clauseStyle) = (d.apply t).map redact := by
  cases t
  case filter condition =>
    simp only [Transition.redact, apply, ConditionArg.resolve_redact]
    cases condition.resolve with
    | error e => rfl
    | ok c => exact congrArg Except.ok (d.filter_redact c)
  case extend connective condition =>
    cases hp : d.whereClause with
    | none => simp only [Transition.redact, apply, hp, show d.redact.whereClause = none from hp]; rfl
    | some predicate =>
        simp only [Transition.redact, apply, hp,
          show d.redact.whereClause = some predicate from hp, ConditionArg.resolve_redact]
        cases condition.resolve with
        | error e => rfl
        | ok c => exact congrArg Except.ok (d.extend_redact predicate connective c)
  case on left operator right =>
    simp only [Transition.redact, apply]
    cases operator.resolve <;> rfl
  case insertInto table data =>
    simp only [Transition.redact, apply, Record.columns_redact, Record.values_redact]
    rfl
  case set data =>
    simp only [Transition.redact, apply, Record.assignments_redact, Record.values_redact]
    rfl
  case orderBy term =>
    simp only [Transition.redact, apply, Except.map, redact, List.map_append]
    cases d.clauseStyle <;> rfl
  case groupBy columns =>
    simp only [Transition.redact, apply, Except.map, redact]
    cases d.clauseStyle <;> rfl
  all_goals rfl

end Descriptor

/-! ## A redacted descriptor looks the same -/

/-- What a clause adds to a statement but for the values themselves. -/
def Clause.shape (c : Clause) : String × Nat := (c.text, c.values.length)

theorem Statement.ofClauses_congr {cs es : List Clause}
    (h : cs.map Clause.shape = es.map Clause.shape) :
    (ofClauses cs).sql = (ofClauses es).sql ∧
      (ofClauses cs).parameters.length = (ofClauses es).parameters.length := by
  have htexts := congrArg (List.map Prod.fst) h
  have hlengths := congrArg (List.map Prod.snd) h
  rw [List.map_map, List.map_map] at htexts hlengths
  constructor
  · show String.join (cs.map Clause.text) = String.join (es.map Clause.text)
    exact congrArg String.join htexts
  · show (cs.flatMap Clause.values).length = (es.flatMap Clause.values).length
    rw [List.length_flatMap, List.length_flatMap]
    exact congrArg List.sum hlengths

namespace Descriptor

theorem shape_head_redact (d : Descriptor) : d.redact.head.shape = d.head.shape := by
  have hmode : d.redact.effectiveMode = d.effectiveMode := rfl
  rw [head, head, hmode]
  split
  · rfl
  · show (_, d.redact.insertParameters.length) = (_, d.insertParameters.length)
    exact congrArg (Prod.mk _) (List.length_map _)
  · show d.redact.updateHead.shape = d.updateHead.shape
    have hset : d.redact.setClause = d.setClause := rfl
    rw [updateHead, updateHead, hset]
    split
    · exact congrArg (Prod.mk _) (List.length_map _)
    · rfl
  · rfl
  · rfl

theorem shape_whereTail_redact (d : Descriptor) :
    d.redact.whereTail.shape = d.whereTail.shape := by
  have hwhere : d.redact.whereClause = d.whereClause := rfl
  rw [whereTail, whereTail, hwhere]
  split <;> exact congrArg (Prod.mk _) (List.length_map _)

theorem shape_groupByTail_redact (d : Descriptor) :
    (d.redact.groupByTail d.clauseStyle).shape = (d.groupByTail d.clauseStyle).shape := by
  simp only [groupByTail, redact]
  cases d.clauseStyle <;> cases d.groupBy <;> rfl

theorem shape_havingTail_redact (d : Descriptor) :
    (d.redact.havingTail d.clauseStyle).shape = (d.havingTail d.clauseStyle).shape := by
  simp only [havingTail, redact]
  cases d.clauseStyle <;> cases d.having <;> rfl

theorem shape_orderByTail_redact (d : Descriptor) :
    (d.redact.orderByTail d.clauseStyle).shape = (d.orderByTail d.clauseStyle).shape := by
  simp only [orderByTail, redact]
  cases d.clauseStyle with
  | bound => cases d.orderBy <;> simp [Clause.shape, Clause.nothing]
  | inline => rw [ClauseStyle.redact_inline, List.map_id]

theorem shape_limitTail_redact (d : Descriptor) :
    d.redact.limitTail.shape = d.limitTail.shape := by
  simp only [limitTail, redact]
  cases d.limit <;> rfl

theorem shape_offsetTail_redact (d : Descriptor) :
    d.redact.offsetTail.shape = d.offsetTail.shape := by
  simp only [offsetTail, redact]
  cases d.offset <;> rfl

theorem shape_clauses_redact (d : Descriptor) :
    d.redact.clauses.map Clause.shape = d.clauses.map Clause.shape := by
  have hg := d.shape_groupByTail_redact
  have hh := d.shape_havingTail_redact
  have ho := d.shape_orderByTail_redact
  have hstyle : d.redact.clauseStyle = d.clauseStyle := rfl
  rw [clauses, clauses, tail, tail, hstyle]
  cases hs : d.clauseStyle
  all_goals
    rw [hs] at hg hh ho
    simp only [List.map_cons, List.map_nil, shape_head_redact, shape_whereTail_redact, hg, hh, ho,
      shape_limitTail_redact, shape_offsetTail_redact]

theorem checkInline_redact (d : Descriptor) : d.redact.checkInline = d.checkInline := by
  simp only [checkInline, redact]
  cases d.clauseStyle with
  | bound => rfl
  | inline => simp only [ClauseStyle.redact_inline, Option.map_id, List.map_id, id]

theorem checkPlaceholders_redact (d : Descriptor) :
    d.redact.checkPlaceholders = d.checkPlaceholders := by
  simp only [checkPlaceholders, redact, List.length_map]

/-- No check looks at what is redacted. -/
theorem check_redact (d : Descriptor) {check : Descriptor → Option Violation}
    (hc : check ∈ checks) : check d.redact = check d := by
  simp only [checks, List.mem_cons, List.not_mem_nil, or_false] at hc
  rcases hc with rfl | rfl | rfl | rfl | rfl | rfl
  case inr.inr.inr.inl => exact d.checkPlaceholders_redact
  case inr.inr.inr.inr.inr => exact d.checkInline_redact
  all_goals rfl

theorem violation?_redact (d : Descriptor) : d.redact.violation? = d.violation? := by
  rw [violation?, violation?, ← List.head?_filterMap, ← List.head?_filterMap,
    List.filterMap_congr fun _ hc => d.check_redact hc]

end Descriptor

/-! ## Two runs -/

namespace Query

variable {κ κ₁ κ₂ : Type}

/-- What is to be seen of a query without its values. -/
def seen (q : Query κ) : String × Nat × Option Violation :=
  (q.sql, q.parameters.length, q.violation?)

/-- Make the calls of a chain in turn and pass over those that fail: how each
of them fails, if it does, and the query that is left. -/
def attempt (q : Query κ) : List Transition → List (Option ChainError) × Query κ
  | [] => ([], q)
  | t :: ts =>
      match q.apply t with
      | .ok r => (none :: (r.attempt ts).1, (r.attempt ts).2)
      | .error e => (some e :: (q.attempt ts).1, (q.attempt ts).2)

/-- Queries that redact to the same descriptor are not to be told apart. -/
def Alike (q : Query κ₁) (r : Query κ₂) : Prop := q.descriptor.redact = r.descriptor.redact

theorem Alike.seen_eq {q : Query κ₁} {r : Query κ₂} (h : q.Alike r) : q.seen = r.seen := by
  have hshape : q.descriptor.clauses.map Clause.shape = r.descriptor.clauses.map Clause.shape := by
    rw [← q.descriptor.shape_clauses_redact, h, r.descriptor.shape_clauses_redact]
  have hviolation : q.descriptor.violation? = r.descriptor.violation? := by
    rw [← q.descriptor.violation?_redact, h, r.descriptor.violation?_redact]
  obtain ⟨hsql, hlength⟩ := Statement.ofClauses_congr hshape
  exact Prod.ext hsql (Prod.ext hlength hviolation)

theorem Alike.clauseStyle_eq {q : Query κ₁} {r : Query κ₂} (h : q.Alike r) :
    q.descriptor.clauseStyle = r.descriptor.clauseStyle := by
  have hstyle := congrArg Descriptor.clauseStyle h
  exact hstyle

theorem Alike.apply {q : Query κ₁} {r : Query κ₂} {t u : Transition} (h : q.Alike r)
    (ht : t.redact q.descriptor.clauseStyle = u.redact q.descriptor.clauseStyle) :
    (∃ q' r', q.apply t = .ok q' ∧ r.apply u = .ok r' ∧ q'.Alike r') ∨
      ∃ e, q.apply t = .error e ∧ r.apply u = .error e := by
  have hmap : (q.descriptor.apply t).map Descriptor.redact =
      (r.descriptor.apply u).map Descriptor.redact := by
    rw [← Descriptor.apply_redact, ← Descriptor.apply_redact, ht, h.clauseStyle_eq]
    exact congrArg (Descriptor.apply · _) h
  rw [Query.apply, Query.apply]
  cases hq : q.descriptor.apply t with
  | error e =>
      cases hr : r.descriptor.apply u with
      | error e' =>
          rw [hq, hr] at hmap
          cases hmap
          exact .inr ⟨e, rfl, rfl⟩
      | ok d' => rw [hq, hr] at hmap; cases hmap
  | ok d =>
      cases hr : r.descriptor.apply u with
      | error e' => rw [hq, hr] at hmap; cases hmap
      | ok d' =>
          rw [hq, hr] at hmap
          exact .inl ⟨_, _, rfl, rfl, Except.ok.inj hmap⟩

theorem Alike.attempt {ts us : List Transition} {q : Query κ₁} {r : Query κ₂} (h : q.Alike r)
    (hcalls : ts.map (Transition.redact q.descriptor.clauseStyle) =
      us.map (Transition.redact q.descriptor.clauseStyle)) :
    (q.attempt ts).1 = (r.attempt us).1 ∧ (q.attempt ts).2.Alike (r.attempt us).2 := by
  induction ts generalizing us q r with
  | nil =>
      cases List.map_eq_nil_iff.mp hcalls.symm
      exact ⟨rfl, h⟩
  | cons t ts ih =>
      obtain ⟨u, us, rfl, hu, hus⟩ := List.map_eq_cons_iff.mp hcalls.symm
      simp only [Query.attempt]
      rcases h.apply hu.symm with ⟨q', r', hq, hr, h'⟩ | ⟨e, hq, hr⟩
      · rw [hq, hr]
        rw [← (apply_eq_ok_iff.mp hq).1.clauseStyle_eq] at hus
        obtain ⟨hfailures, hleft⟩ := ih h' hus.symm
        exact ⟨congrArg (List.cons none) hfailures, hleft⟩
      · rw [hq, hr]
        obtain ⟨hfailures, hleft⟩ := ih h hus.symm
        exact ⟨congrArg (List.cons (some e)) hfailures, hleft⟩

/-- A chain that is given up at the first call that fails is an attempt with no
failures. -/
theorem chain_eq_attempt (q : Query κ) (ts : List Transition) :
    q.chain ts = match (q.attempt ts).1.findSome? id with
      | none => .ok (q.attempt ts).2
      | some e => .error e := by
  induction ts generalizing q with
  | nil => rfl
  | cons t ts ih =>
      simp only [Query.attempt, chain, List.foldlM_cons]
      cases q.apply t with
      | error e => rfl
      | ok r => exact ih r

/-- Nothing that is seen of a query tells which values it was made with. -/
theorem values_unseen {o : Options κ₁} {p : Options κ₂} {ts us : List Transition}
    (htable : o.table = p.table) (hstyle : o.clauseStyle = p.clauseStyle)
    (hcalls : ts.map (Transition.redact o.clauseStyle) =
      us.map (Transition.redact o.clauseStyle)) :
    ((ofOptions o).attempt ts).1 = ((ofOptions p).attempt us).1 ∧
      ((ofOptions o).attempt ts).2.seen = ((ofOptions p).attempt us).2.seen ∧
        ((ofOptions o).chain ts).map seen = ((ofOptions p).chain us).map seen := by
  have hroot : (ofOptions o).Alike (ofOptions p) := by
    rw [Alike, ofOptions, ofOptions, htable, hstyle]
  obtain ⟨hfailures, hleft⟩ := hroot.attempt hcalls
  refine ⟨hfailures, hleft.seen_eq, ?_⟩
  rw [chain_eq_attempt, chain_eq_attempt, hfailures]
  cases ((ofOptions p).attempt us).1.findSome? id with
  | some e => rfl
  | none => exact congrArg Except.ok hleft.seen_eq

/-- Two UPDATEs of the same two columns, one of them written twice. What is
different in all the rest goes to a placeholder or, with IS NULL, nowhere. -/
theorem values_unseen_update :
    let ts : List Transition :=
      [.update "users", .extend .and (.compare "id" (.spelled "=") (.integer 1)),
        .set (.ofPairs [("name", .text "Jane"), ("age", .null), ("name", .text "Jo")]),
        .filter (.compare "email" (.spelled "is null") (.text "a@b.c")),
        .extend .or (.compare "age" (.spelled ">") (.integer 30)),
        .groupBy ["age", "name"], .having "COUNT(*) > 1", .orderBy (.column "age" .desc), .limit 5]
    let us : List Transition :=
      [.update "users", .extend .and (.compare "id" (.spelled "=") (.text "?")),
        .set (.ofPairs [("name", .null), ("age", .integer 7), ("name", .text "'; --")]),
        .filter (.compare "email" (.spelled "is null") .null),
        .extend .or (.compare "age" (.spelled ">") (.text "1 OR 1 = 1")),
        .groupBy [], .having "?", .orderBy (.written "; DROP TABLE users"), .limit 0]
    let root : Query Unit := .ofOptions {}
    (root.attempt us).1 =
        [none, some (.misuse (.connectiveBeforeWhere .and)), none, none, none, none, none, none,
          none] ∧
      (root.attempt ts).2.parameters ≠ (root.attempt us).2.parameters ∧
      (root.attempt ts).2.seen = (root.attempt us).2.seen := by
  intro ts us root
  have hcalls : ts.map (Transition.redact .bound) = us.map (Transition.redact .bound) := rfl
  obtain ⟨hfailures, hseen, -⟩ := values_unseen (o := {}) (p := {}) rfl rfl hcalls
  exact ⟨hfailures.symm.trans rfl, by decide, hseen⟩

end Query

end SqlChain
