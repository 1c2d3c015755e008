import Mathlib.Data.List.Induction
import SqlChain.Query.Transition

/-!
# The queries that a program can make

A program makes a root and calls on it; every query it ever holds comes out of
finitely many calls that went well. `Reachable` says so, and it keeps the calls:
most of what can be said of a query is said in terms of the last call of some
sort, or of whether there was one. What a call does is told by `Becomes`, a
constructor a call, which is `apply` turned into something to do cases on.

An induction over the calls is done once, in `Reachable.induct`. Everything
else about a reachable query is a remark on one call.
-/

namespace SqlChain

/-! ## One call -/

/-- `d.Becomes t e`: the call `t` goes well on `d` and leads to `e`. -/
inductive Descriptor.Becomes (d : Descriptor) : Transition → Descriptor → Prop where
  | select (columns : List String) :
      d.Becomes (.select columns)
        ({ d with selectColumns := some (Text.listing columns) }.claim .select)
  | count (expression : String) :
      d.Becomes (.count expression) ({ d with count := some expression }.claim .select)
  | fromTable (table : String) :
      d.Becomes (.fromTable table) { d with fromTable := some table }
  | join (kind : JoinKind) (table : String) : d.Becomes (.join kind table) (d.join kind table)
  | on {operator : OperatorArg} {o : Operator} (left right : String)
      (ho : operator.resolve = .ok o) :
      d.Becomes (.on left operator right)
        { d with onClause := some (left ++ " " ++ o.text ++ " " ++ right) }
  | onRaw (clause : String) : d.Becomes (.onRaw clause) { d with onClause := some clause }
  | filter {condition : ConditionArg} {c : Condition} (hc : condition.resolve = .ok c) :
      d.Becomes (.filter condition) (d.filter c)
  | filterRaw (predicate : String) :
      d.Becomes (.filterRaw predicate) { d with whereClause := some predicate }
  | extend {predicate : String} {condition : ConditionArg} {c : Condition}
      (connective : Connective) (hp : d.whereClause = some predicate)
      (hc : condition.resolve = .ok c) :
      d.Becomes (.extend connective condition) (d.extend predicate connective c)
  | groupBy (columns : List String) :
      d.Becomes (.groupBy columns) { d with groupBy := some (Text.listing columns) }
  | having (expression : String) : d.Becomes (.having expression) { d with having := some expression }
  | orderBy (term : OrderTerm) :
      d.Becomes (.orderBy term) { d with orderBy := d.orderBy ++ [term.text] }
  | limit (n : UInt64) : d.Becomes (.limit n) { d with limit := some n }
  | offset (n : UInt64) : d.Becomes (.offset n) { d with offset := some n }
  | insertInto (table : String) (data : Record) :
      d.Becomes (.insertInto table data)
        ({ d with
          insertTable := some table
          insertColumns := data.columns
          insertParameters := data.values }.claim .insert)
  | update (table : String) :
      d.Becomes (.update table) ({ d with updateTable := some table }.claim .update)
  | set (data : Record) :
      d.Becomes (.set data) { d with setClause := some data.assignments, setParameters := data.values }
  | deleteFrom (table : String) :
      d.Becomes (.deleteFrom table) ({ d with deleteTable := some table }.claim .delete)
  | force (on : Bool) : d.Becomes (.force on) { d with force := on }
  | copy : d.Becomes .copy d

namespace Descriptor

theorem Becomes.apply_eq {d e : Descriptor} {t : Transition} (h : d.Becomes t e) :
    d.apply t = .ok e := by
  cases h
  case on ho => simp only [apply, ho]; rfl
  case filter hc => simp only [apply, hc]; rfl
  case extend hp hc => simp only [apply, hp, hc]; rfl
  all_goals rfl

/-- An error mapped and then passed over was no error to begin with. -/
theorem exists_of_mapError_bind {ε ε' α β : Type} {x : Except ε α} {f : ε → ε'}
    {g : α → Except ε' β} {b : β} (h : (x.mapError f >>= g) = .ok b) :
    ∃ a, x = .ok a ∧ g a = .ok b := by
  cases x with
  | error e => cases h
  | ok a => exact ⟨a, rfl, h⟩

theorem becomes_of_apply_eq {d e : Descriptor} {t : Transition} (h : d.apply t = .ok e) :
    d.Becomes t e := by
  cases t
  case on left operator right =>
    obtain ⟨o, ho, he⟩ := exists_of_mapError_bind h
    cases he
    exact .on left right ho
  case filter condition =>
    obtain ⟨c, hc, he⟩ := exists_of_mapError_bind h
    cases he
    exact .filter hc
  case extend connective condition =>
    simp only [apply] at h
    split at h
    · cases h
    · next predicate hp =>
        obtain ⟨c, hc, he⟩ := exists_of_mapError_bind h
        cases he
        exact .extend connective hp hc
  all_goals
    cases h
    constructor

theorem apply_eq_ok_iff {d e : Descriptor} {t : Transition} :
    d.apply t = .ok e ↔ d.Becomes t e :=
  ⟨becomes_of_apply_eq, Becomes.apply_eq⟩

theorem Becomes.clauseStyle_eq {d e : Descriptor} {t : Transition} (h : d.Becomes t e) :
    e.clauseStyle = d.clauseStyle := by
  cases h <;> rfl

/-- The table that calls of a kind have named. -/
def tableOf : Mode → Descriptor → Option String
  | .select, d => d.fromTable
  | .insert, d => d.insertTable
  | .update, d => d.updateTable
  | .delete, d => d.deleteTable

theorem targetTable_of_effectiveMode {d : Descriptor} {m : Mode}
    (he : d.effectiveMode = some m) : d.targetTable = d.tableOf m := by
  rw [targetTable, he]
  cases m <;> rfl

theorem targetTable_of_mode {d : Descriptor} {m : Mode} (hm : d.mode = some m) :
    d.targetTable = d.tableOf m :=
  targetTable_of_effectiveMode (by rw [effectiveMode, hm]; rfl)

end Descriptor

/-! ## What a call says

Some fields of a descriptor keep the word of the last call that spoke of them.
These functions read the word off a call. -/

namespace Transition

/-- The kind of statement that the call names. -/
def claims? : Transition → Option Mode
  | .select _ => some .select
  | .count _ => some .select
  | .insertInto _ _ => some .insert
  | .update _ => some .update
  | .deleteFrom _ => some .delete
  | _ => none

/-- The table that the call names for a statement of the kind. -/
def table? : Mode → Transition → Option String
  | .select, .fromTable table => some table
  | .insert, .insertInto table _ => some table
  | .update, .update table => some table
  | .delete, .deleteFrom table => some table
  | _, _ => none

/-- A call that makes an INSERT, an UPDATE or a DELETE of a chain names its table. -/
theorem isSome_table?_of_claims {t : Transition} {m : Mode} (ht : t.claims? = some m)
    (hm : m ≠ .select) : (t.table? m).isSome = true := by
  cases t <;> cases ht <;> first | exact absurd rfl hm | rfl

/-- The kind and the table of a join. -/
def join? : Transition → Option (JoinKind × String)
  | .join kind table => some (kind, table)
  | _ => none

/-- The condition of an `on` or an `onRaw`. An operator that is unknown makes none. -/
def on? : Transition → Option String
  | .on left operator right =>
      operator.resolve.toOption.map fun o => left ++ " " ++ o.text ++ " " ++ right
  | .onRaw clause => some clause
  | _ => none

/-- The columns of a `select`. -/
def columns? : Transition → Option (List String)
  | .select columns => some columns
  | _ => none

/-- The expression of a `count`. -/
def expression? : Transition → Option String
  | .count expression => some expression
  | _ => none

/-- The record of an `insertInto`. -/
def inserted? : Transition → Option Record
  | .insertInto _ data => some data
  | _ => none

/-- The columns of a `groupBy`. -/
def groups? : Transition → Option (List String)
  | .groupBy columns => some columns
  | _ => none

/-- The expression of a `having`. -/
def having? : Transition → Option String
  | .having expression => some expression
  | _ => none

/-- The term of an `orderBy`. -/
def term? : Transition → Option OrderTerm
  | .orderBy term => some term
  | _ => none

/-- The record of a `set`. -/
def data? : Transition → Option Record
  | .set data => some data
  | _ => none

/-- The number of a `limit`. -/
def limit? : Transition → Option UInt64
  | .limit n => some n
  | _ => none

/-- The number of an `offset`. -/
def offset? : Transition → Option UInt64
  | .offset n => some n
  | _ => none

/-- Whether a `force` allows or forbids. -/
def force? : Transition → Option Bool
  | .force allowed => some allowed
  | _ => none

/-- Whether the call gives the statement a predicate of its own. Extending one
that is there does not count. -/
def setsPredicate : Transition → Bool
  | .filter _ => true
  | .filterRaw _ => true
  | _ => false

end Transition

theorem Descriptor.Becomes.mode_eq {d e : Descriptor} {t : Transition} (h : d.Becomes t e) :
    e.mode = d.mode.or t.claims? := by
  cases h
  case select | count | insertInto | update | deleteFrom => exact Option.orElse_eq_or
  all_goals exact (Option.or_none).symm

theorem Descriptor.Becomes.tableOf_eq {d e : Descriptor} {t : Transition} (h : d.Becomes t e)
    (m : Mode) : e.tableOf m = (t.table? m).or (d.tableOf m) := by
  cases m <;> cases h <;> rfl

/-- Values are bound by what writes the predicate. -/
theorem Descriptor.Becomes.whereParameters_eq_nil {d e : Descriptor} {t : Transition}
    (h : d.Becomes t e) (hd : d.whereClause = none → d.whereParameters = [])
    (he : e.whereClause = none) : e.whereParameters = [] := by
  cases h
  case filter => cases he
  case filterRaw => cases he
  case extend => cases he
  all_goals exact hd he

theorem Descriptor.Becomes.length_insertParameters {d e : Descriptor} {t : Transition}
    (h : d.Becomes t e) (hd : d.insertParameters.length = d.insertColumns.length) :
    e.insertParameters.length = e.insertColumns.length := by
  cases h
  case insertInto data => exact data.length_values
  all_goals exact hd

/-- The last word is that of the last call, or else that of the calls before. -/
theorem findSomeRev?_concat {α : Type} (word : Transition → Option α) (ts : List Transition)
    (t : Transition) :
    (ts ++ [t]).findSomeRev? word = (word t).or (ts.findSomeRev? word) := by
  rw [List.findSomeRev?_eq_findSome?_reverse, List.findSomeRev?_eq_findSome?_reverse,
    List.reverse_append, List.findSome?_append]
  cases h : word t <;> simp [h]

/-! ## Reachable queries -/

namespace Query

variable {κ : Type}

/-- `Reachable ts q`: the calls `ts`, one after another on a root, lead to `q`.
The functions that start a chain with a call are that call on an empty root. -/
inductive Reachable : List Transition → Query κ → Prop where
  | new : Reachable [] .new
  | ofOptions (options : Options κ) : Reachable [] (.ofOptions options)
  | forTable (table : String) (options : Options κ) : Reachable [] (.forTable table options)
  | call {ts : List Transition} {q r : Query κ} {t : Transition} :
      Reachable ts q → q.apply t = .ok r → Reachable (ts ++ [t]) r

theorem apply_eq_ok_iff {q r : Query κ} {t : Transition} :
    q.apply t = .ok r ↔ q.descriptor.Becomes t r.descriptor ∧ r.options = q.options := by
  rw [← Descriptor.apply_eq_ok_iff]
  obtain ⟨d, o⟩ := q
  obtain ⟨e, p⟩ := r
  cases h : d.apply t with
  | error err => simp [apply, h, Except.map]
  | ok d' =>
      simp only [apply, h, Except.map, Except.ok.injEq, Query.mk.injEq]
      exact ⟨fun ⟨he, ho⟩ => ⟨he, ho.symm⟩, fun ⟨he, ho⟩ => ⟨he, ho.symm⟩⟩

theorem chain_cons (q : Query κ) (t : Transition) (ts : List Transition) :
    q.chain (t :: ts) = q.apply t >>= fun r => r.chain ts :=
  List.foldlM_cons

theorem chain_cons_eq_ok_iff {q r : Query κ} {t : Transition} {ts : List Transition} :
    q.chain (t :: ts) = .ok r ↔ ∃ p, q.apply t = .ok p ∧ p.chain ts = .ok r := by
  rw [chain_cons]
  cases q.apply t <;> simp [Bind.bind, Except.bind]

/-- What every call of a chain keeps, the chain keeps, wherever it starts. -/
theorem chain_induct {P : Descriptor → Prop} {ts : List Transition} {q r : Query κ}
    (start : P q.descriptor) (call : ∀ t ∈ ts, ∀ d e, P d → d.Becomes t e → P e)
    (h : q.chain ts = .ok r) : P r.descriptor := by
  induction ts generalizing q with
  | nil =>
      cases h
      exact start
  | cons t ts ih =>
      obtain ⟨p, hp, hr⟩ := chain_cons_eq_ok_iff.mp h
      have hnext : P p.descriptor :=
        call t List.mem_cons_self _ _ start (apply_eq_ok_iff.mp hp).1
      exact ih hnext (fun t ht => call t (List.mem_cons_of_mem _ ht)) hr

theorem chain_append (q : Query κ) (ts us : List Transition) :
    q.chain (ts ++ us) = q.chain ts >>= fun r => r.chain us :=
  List.foldlM_append

theorem chain_concat (q : Query κ) (ts : List Transition) (t : Transition) :
    q.chain (ts ++ [t]) = q.chain ts >>= fun r => r.apply t := by
  simp [chain, List.foldlM_append]

/-- A query is reachable if it is what a chain on some root comes to: the other
roots are roots with options too. -/
theorem reachable_iff {ts : List Transition} {q : Query κ} :
    Reachable ts q ↔ ∃ options : Options κ, (ofOptions options).chain ts = .ok q := by
  constructor
  · intro h
    induction h with
    | new => exact ⟨{}, rfl⟩
    | ofOptions options => exact ⟨options, rfl⟩
    | forTable table options => exact ⟨{ options with table := some table }, rfl⟩
    | call _ ht ih =>
        obtain ⟨options, ho⟩ := ih
        exact ⟨options, by rw [chain_concat, ho]; exact ht⟩
  · rintro ⟨options, h⟩
    -- On the end of the list, so that the query before the last call is named.
    induction ts using List.reverseRecOn generalizing q with
    | nil => cases h; exact .ofOptions options
    | append_singleton ts t ih =>
        rw [chain_concat] at h
        cases hr : (ofOptions options).chain ts with
        | error e => rw [hr] at h; cases h
        | ok r => rw [hr] at h; exact .call (ih hr) h

/-- What comes before the end of a chain is a chain too. -/
theorem Reachable.exists_front {ts us : List Transition} {q : Query κ}
    (h : Reachable (ts ++ us) q) : ∃ p : Query κ, Reachable ts p := by
  obtain ⟨options, ho⟩ := reachable_iff.mp h
  rw [chain_append] at ho
  cases hp : (Query.ofOptions options).chain ts with
  | error e =>
      rw [hp] at ho
      cases ho
  | ok p => exact ⟨p, reachable_iff.mpr ⟨options, hp⟩⟩

/-- What holds of every root and is kept by every call holds of every reachable
query, with the calls that led to it and the options that it started from. -/
theorem Reachable.induct_options {P : Options κ → List Transition → Descriptor → Prop}
    (root : ∀ options : Options κ, P options [] (Query.ofOptions options).descriptor)
    (call : ∀ {options ts d t e}, P options ts d → d.Becomes t e → P options (ts ++ [t]) e)
    {ts : List Transition} {q : Query κ} (h : Reachable ts q) : P q.options ts q.descriptor := by
  induction h with
  | new => exact root {}
  | ofOptions options => exact root options
  | forTable table options => exact root { options with table := some table }
  | call _ ht ih =>
      obtain ⟨hbecomes, hoptions⟩ := apply_eq_ok_iff.mp ht
      rw [hoptions]
      exact call ih hbecomes

/-- The same for what does not depend on the options. -/
theorem Reachable.induct {P : List Transition → Descriptor → Prop}
    (root : ∀ options : Options κ, P [] (Query.ofOptions options).descriptor)
    (call : ∀ {ts d t e}, P ts d → d.Becomes t e → P (ts ++ [t]) e)
    {ts : List Transition} {q : Query κ} (h : Reachable ts q) : P ts q.descriptor :=
  h.induct_options (P := fun _ ts d => P ts d) root call

/-- A field that a call either writes or leaves alone holds what the last call
that wrote it wrote: `f` says what that is, and what the field of a root is. -/
theorem Reachable.eq_last {α β : Type} {field : Descriptor → α} {word : Transition → Option β}
    {f : Options κ → Option β → α}
    (root : ∀ options : Options κ, field (Query.ofOptions options).descriptor = f options none)
    (call : ∀ {options d t e}, d.Becomes t e →
      field e = (word t).elim (field d) fun b => f options (some b))
    {ts : List Transition} {q : Query κ} (h : Reachable ts q) :
    field q.descriptor = f q.options (ts.findSomeRev? word) := by
  refine induct_options (P := fun options ts d => field d = f options (ts.findSomeRev? word))
    root ?_ h
  intro options ts d t e ih ht
  have hfield : field e = (word t).elim (field d) fun b => f options (some b) := call ht
  rw [hfield, ih, findSomeRev?_concat]
  cases word t <;> rfl

/-! ## The fields of a reachable descriptor

Each of these is one look at the calls. The kind of statement is settled by the
first call that names one, and the terms of ORDER BY pile up; elsewhere the last
word counts. The assignments and their values are written together and nowhere
else; a predicate that is not there has bound nothing; and the columns of an
INSERT come with as many values. -/

/-- The kind of the first call that names a kind of statement. -/
def firstMode (ts : List Transition) : Option Mode := ts.findSome? Transition.claims?

/-- The table of a statement of kind `m`: the last one that a call has given for the
kind, or else, to select from, that of the options. -/
def lastTable (m : Mode) (options : Options κ) (ts : List Transition) : Option String :=
  (ts.findSomeRev? (Transition.table? m)).or (if m = .select then options.table else none)

namespace Reachable

variable {ts : List Transition} {q : Query κ}

theorem clauseStyle_eq (h : Reachable ts q) :
    q.descriptor.clauseStyle = q.options.clauseStyle := by
  refine induct_options (P := fun options _ d => d.clauseStyle = options.clauseStyle)
    (fun _ => rfl) ?_ h
  intro options ts d t e ih ht
  rw [ht.clauseStyle_eq, ih]

theorem mode_eq (h : Reachable ts q) : q.descriptor.mode = firstMode ts := by
  refine induct (P := fun ts d => d.mode = firstMode ts) (fun _ => rfl) ?_ h
  intro ts d t e ih ht
  rw [ht.mode_eq, ih, firstMode, firstMode, List.findSome?_append, List.findSome?_singleton]

theorem tableOf_eq (h : Reachable ts q) (m : Mode) :
    q.descriptor.tableOf m = lastTable m q.options ts :=
  h.eq_last (f := fun options table => table.or (if m = .select then options.table else none))
    (fun _ => by cases m <;> rfl) fun ht => by
      rw [ht.tableOf_eq m]
      cases Transition.table? m _ <;> rfl

theorem selectColumns_eq (h : Reachable ts q) :
    q.descriptor.selectColumns = (ts.findSomeRev? Transition.columns?).map Text.listing :=
  h.eq_last (f := fun _ => Option.map Text.listing) (fun _ => rfl) fun ht => by cases ht <;> rfl

theorem count_eq (h : Reachable ts q) :
    q.descriptor.count = ts.findSomeRev? Transition.expression? :=
  h.eq_last (f := fun _ => id) (fun _ => rfl) fun ht => by cases ht <;> rfl

theorem joins_eq (h : Reachable ts q) :
    q.descriptor.joins = Keyed.ofList (ts.filterMap Transition.join?) := by
  refine induct (P := fun ts d => d.joins = Keyed.ofList (ts.filterMap Transition.join?))
    (fun _ => rfl) ?_ h
  intro ts d t e ih ht
  rw [List.filterMap_append]
  cases ht
  case join kind table =>
    show Keyed.put d.joins kind table = _
    rw [ih]
    exact (Keyed.ofList_concat _ (kind, table)).symm
  all_goals exact ih.trans (congrArg Keyed.ofList (List.append_nil _).symm)

theorem onClause_eq (h : Reachable ts q) :
    q.descriptor.onClause = ts.findSomeRev? Transition.on? :=
  h.eq_last (f := fun _ => id) (fun _ => rfl) fun ht => by
    cases ht
    case on ho => simp only [Transition.on?, ho]; rfl
    all_goals rfl

theorem insertColumns_eq (h : Reachable ts q) :
    q.descriptor.insertColumns = (ts.findSomeRev? Transition.inserted?).elim [] Record.columns :=
  h.eq_last (f := fun _ data => data.elim [] Record.columns) (fun _ => rfl) fun ht => by
    cases ht <;> rfl

theorem insertParameters_eq (h : Reachable ts q) :
    q.descriptor.insertParameters = (ts.findSomeRev? Transition.inserted?).elim [] Record.values :=
  h.eq_last (f := fun _ data => data.elim [] Record.values) (fun _ => rfl) fun ht => by
    cases ht <;> rfl

theorem groupBy_eq (h : Reachable ts q) :
    q.descriptor.groupBy = (ts.findSomeRev? Transition.groups?).map Text.listing :=
  h.eq_last (f := fun _ => Option.map Text.listing) (fun _ => rfl) fun ht => by cases ht <;> rfl

theorem having_eq (h : Reachable ts q) :
    q.descriptor.having = ts.findSomeRev? Transition.having? :=
  h.eq_last (f := fun _ => id) (fun _ => rfl) fun ht => by cases ht <;> rfl

theorem orderBy_eq (h : Reachable ts q) :
    q.descriptor.orderBy = (ts.filterMap Transition.term?).map OrderTerm.text := by
  refine induct (P := fun ts d => d.orderBy = (ts.filterMap Transition.term?).map OrderTerm.text)
    (fun _ => rfl) ?_ h
  intro ts d t e ih ht
  rw [List.filterMap_append, List.map_append, ← ih]
  cases ht
  case orderBy => rfl
  all_goals exact (List.append_nil _).symm

theorem setClause_eq (h : Reachable ts q) :
    q.descriptor.setClause = (ts.findSomeRev? Transition.data?).map Record.assignments :=
  h.eq_last (f := fun _ => Option.map Record.assignments) (fun _ => rfl) fun ht => by
    cases ht <;> rfl

theorem setParameters_eq (h : Reachable ts q) :
    q.descriptor.setParameters = (ts.findSomeRev? Transition.data?).elim [] Record.values :=
  h.eq_last (f := fun _ data => data.elim [] Record.values) (fun _ => rfl) fun ht => by
    cases ht <;> rfl

theorem limit_eq (h : Reachable ts q) :
    q.descriptor.limit = ts.findSomeRev? Transition.limit? :=
  h.eq_last (f := fun _ => id) (fun _ => rfl) fun ht => by cases ht <;> rfl

theorem offset_eq (h : Reachable ts q) :
    q.descriptor.offset = ts.findSomeRev? Transition.offset? :=
  h.eq_last (f := fun _ => id) (fun _ => rfl) fun ht => by cases ht <;> rfl

theorem force_eq (h : Reachable ts q) :
    q.descriptor.force = (ts.findSomeRev? Transition.force?).getD false :=
  h.eq_last (f := fun _ => (Option.getD · false)) (fun _ => rfl) fun ht => by cases ht <;> rfl

theorem isSome_whereClause (h : Reachable ts q) :
    q.descriptor.whereClause.isSome = ts.any Transition.setsPredicate := by
  refine induct (P := fun ts d => d.whereClause.isSome = ts.any Transition.setsPredicate)
    (fun _ => rfl) ?_ h
  intro ts d t e ih ht
  rw [List.any_append, ← ih]
  cases ht
  case filter => exact (Bool.or_true _).symm
  case filterRaw => exact (Bool.or_true _).symm
  case extend hp _ => rw [hp]; rfl
  all_goals exact (Bool.or_false _).symm

theorem whereParameters_eq_nil (h : Reachable ts q) (hw : q.descriptor.whereClause = none) :
    q.descriptor.whereParameters = [] :=
  induct (P := fun _ d => d.whereClause = none → d.whereParameters = [])
    (fun _ _ => rfl) (fun ih ht => ht.whereParameters_eq_nil ih) h hw

theorem length_insertParameters (h : Reachable ts q) :
    q.descriptor.insertParameters.length = q.descriptor.insertColumns.length :=
  induct (P := fun _ d => d.insertParameters.length = d.insertColumns.length)
    (fun _ => rfl) (fun ih ht => ht.length_insertParameters ih) h

end Reachable

end Query

end SqlChain
