import SqlChain.Proofs.Predicate

/-!
# The verdict on a chain

The checks look at a descriptor, and a descriptor is what a chain has left behind.
This file says what they come to in terms of the calls alone: which call came
first, which came last, which never came. `verdict` is the list of rules, in the
order in which they are asked; the first that is broken decides.

Each rule has one lemma, which reads the fields that its check looks at off the
chain. The kind of statement is the one place where first and last meet: the
first call that names a kind settles it, and a table to select from, named last
or given with the options, makes a SELECT of a chain that names none.
-/

namespace SqlChain.Query

/-! ## The rules, over calls -/

variable {κ : Type}

/-- No call has set a predicate, and the last word on it, if any, is that a change
of all rows is not meant. -/
def Unguarded (ts : List Transition) : Prop :=
  ts.any Transition.setsPredicate = false ∧
    (ts.findSomeRev? Transition.force?).getD false = false

instance (ts : List Transition) : Decidable (Unguarded ts) := inferInstanceAs (Decidable (_ ∧ _))

/-- The question marks of the predicate. -/
def marks (ts : List Transition) : Nat := Text.placeholders (predicateText ts)

/-- The number of values that all calls have bound. -/
def boundCount (ts : List Transition) : Nat := (ts.flatMap Transition.bound).length

/-- The columns of the last INSERT. -/
def lastInserted (ts : List Transition) : List String :=
  (ts.findSomeRev? Transition.inserted?).elim [] Record.columns

/-- The first text, in the order of the clauses, that may not be written out: the
last columns to group by, the last expression of HAVING, any term of ORDER BY. -/
def unsafeText? (ts : List Transition) : Option Violation :=
  let groups := (ts.findSomeRev? Transition.groups?).map Text.listing
  let expression := ts.findSomeRev? Transition.having?
  let terms := (ts.filterMap Transition.term?).map OrderTerm.text
  match groups.filter (!Identifier.isIdentifierList ·),
      expression.filter (!Identifier.isHavingText ·), terms.find? (!Identifier.isOrderTerm ·) with
  | some columns, _, _ => some (.unsafeClause .groupBy columns)
  | none, some expression, _ => some (.unsafeClause .having expression)
  | none, none, some term => some (.unsafeClause .orderBy term)
  | none, none, none => none

/-- The verdict on a chain from a root with these options. -/
def verdict (options : Options κ) (ts : List Transition) : Option Violation :=
  match ts.findSomeRev? Transition.columns?, ts.findSomeRev? Transition.expression? with
  | some columns, some expression => some (.selectAndCount (Text.listing columns) expression)
  | _, _ =>
      if firstMode ts = some .update ∧ ts.findSomeRev? Transition.data? = none then
        some .updateWithoutSet
      else if firstMode ts = some .update ∧ Unguarded ts then some .unguardedUpdate
      else if firstMode ts = some .delete ∧ Unguarded ts then some .unguardedDelete
      else if ts.any Transition.setsPredicate ∧ marks ts ≠ boundCount ts then
        some (.placeholderMismatch (marks ts) (boundCount ts))
      else if firstMode ts = none ∧ lastTable .select options ts = none then some .emptyQuery
      else if firstMode ts = some .select ∧ lastTable .select options ts = none then
        some .missingTable
      else if firstMode ts = some .insert ∧ lastInserted ts = [] then some .emptyInsert
      else if options.clauseStyle = .inline then unsafeText? ts
      else none

/-! ## Each check by its rule -/

variable {ts : List Transition} {q : Query κ}

theorem Reachable.fromTable_eq (h : Reachable ts q) :
    q.descriptor.fromTable = lastTable .select q.options ts := h.tableOf_eq .select

/-- A kind other than SELECT is settled by a call. -/
theorem Reachable.effectiveMode_eq_some_iff (h : Reachable ts q) {m : Mode} (hm : m ≠ .select) :
    q.descriptor.effectiveMode = some m ↔ firstMode ts = some m := by
  rw [Descriptor.effectiveMode, h.mode_eq]
  cases firstMode ts with
  | some first => exact Iff.rfl
  | none =>
      cases q.descriptor.fromTable with
      | none => exact Iff.rfl
      | some table =>
          refine ⟨fun he => ?_, fun he => ?_⟩
          · exact absurd (Option.some.inj he).symm hm
          · cases he

theorem Reachable.checkSelection_eq (h : Reachable ts q) :
    q.descriptor.checkSelection =
      match ts.findSomeRev? Transition.columns?, ts.findSomeRev? Transition.expression? with
      | some columns, some expression => some (.selectAndCount (Text.listing columns) expression)
      | _, _ => none := by
  rw [Descriptor.checkSelection, h.selectColumns_eq, h.count_eq]
  cases ts.findSomeRev? Transition.columns? <;>
    cases ts.findSomeRev? Transition.expression? <;> rfl

theorem Reachable.checkAssignments_eq (h : Reachable ts q) :
    q.descriptor.checkAssignments =
      if firstMode ts = some .update ∧ ts.findSomeRev? Transition.data? = none then
        some .updateWithoutSet
      else none := by
  have hset : q.descriptor.setClause = none ↔ ts.findSomeRev? Transition.data? = none := by
    rw [h.setClause_eq]
    exact Option.map_eq_none_iff
  simp only [Descriptor.checkAssignments, h.effectiveMode_eq_some_iff (m := .update) (by decide),
    hset]

theorem Reachable.checkGuard_eq (h : Reachable ts q) :
    q.descriptor.checkGuard =
      if firstMode ts = some .update ∧ Unguarded ts then some .unguardedUpdate
      else if firstMode ts = some .delete ∧ Unguarded ts then some .unguardedDelete
      else none := by
  have hunguarded : (q.descriptor.whereClause = none ∧ q.descriptor.force = false) ↔
      Unguarded ts := by
    rw [Unguarded, h.force_eq, ← h.isSome_whereClause, Option.isSome_eq_false_iff,
      Option.isNone_iff_eq_none]
  have hupdate := h.effectiveMode_eq_some_iff (m := .update) (by decide)
  have hdelete := h.effectiveMode_eq_some_iff (m := .delete) (by decide)
  rw [Descriptor.checkGuard]
  simp only [hunguarded]
  by_cases hu : Unguarded ts
  · simp only [hu, and_true, if_true, ← hupdate, ← hdelete]
    cases q.descriptor.effectiveMode with
    | none => rfl
    | some m => cases m <;> rfl
  · simp only [hu, and_false, if_false]

theorem Reachable.checkPlaceholders_eq (h : Reachable ts q) :
    q.descriptor.checkPlaceholders =
      if ts.any Transition.setsPredicate ∧ marks ts ≠ boundCount ts then
        some (.placeholderMismatch (marks ts) (boundCount ts))
      else none := by
  rw [Descriptor.checkPlaceholders, h.whereClause_eq, predicate?, h.whereParameters_eq]
  by_cases hany : ts.any Transition.setsPredicate = true
  · rw [if_pos hany]
    by_cases heq : marks ts = boundCount ts
    · rw [if_neg (fun hne => hne.2 heq)]
      exact if_pos heq
    · rw [if_pos ⟨hany, heq⟩]
      exact if_neg heq
  · rw [if_neg hany, if_neg (fun hne => hany hne.1)]

theorem Reachable.checkSubject_eq (h : Reachable ts q) :
    q.descriptor.checkSubject =
      if firstMode ts = none ∧ lastTable .select q.options ts = none then some .emptyQuery
      else if firstMode ts = some .select ∧ lastTable .select q.options ts = none then
        some .missingTable
      else if firstMode ts = some .insert ∧ lastInserted ts = [] then some .emptyInsert
      else none := by
  have hmode : q.descriptor.effectiveMode =
      (firstMode ts).or ((lastTable .select q.options ts).map fun _ => .select) := by
    rw [Descriptor.effectiveMode, h.mode_eq, h.fromTable_eq, Option.orElse_eq_orElse,
      Option.orElse_eq_or]
  rw [Descriptor.checkSubject, hmode, h.fromTable_eq, h.insertColumns_eq, ← lastInserted]
  cases firstMode ts with
  | none => cases lastTable .select q.options ts <;> simp
  | some m => cases m <;> simp

/-- The first text that is refused, among several. -/
theorem findSome?_checkText (place : InlinePlace) (accepts : String → Bool) (texts : List String) :
    texts.findSome? (Descriptor.checkText place accepts) =
      (texts.find? (!accepts ·)).map (.unsafeClause place) := by
  induction texts with
  | nil => rfl
  | cons text rest ih =>
      rw [List.findSome?_cons, List.find?_cons, ih, Descriptor.checkText]
      cases accepts text <;> rfl

theorem bind_checkText (place : InlinePlace) (accepts : String → Bool) (text : Option String) :
    text.bind (Descriptor.checkText place accepts) =
      (text.filter (!accepts ·)).map (.unsafeClause place) := by
  cases text with
  | none => rfl
  | some text =>
      rw [Option.bind_some, Option.filter_some, Descriptor.checkText]
      cases accepts text <;> rfl

theorem Reachable.checkInline_eq (h : Reachable ts q) :
    q.descriptor.checkInline =
      if q.options.clauseStyle = .inline then unsafeText? ts else none := by
  rw [Descriptor.checkInline, h.clauseStyle_eq, h.groupBy_eq, h.having_eq, h.orderBy_eq]
  cases q.options.clauseStyle with
  | bound => rfl
  | inline =>
      rw [bind_checkText, bind_checkText, findSome?_checkText, unsafeText?]
      simp only [Option.orElse_eq_orElse, Option.orElse_eq_or, if_true]
      split
      · next hgroups => rw [hgroups]; rfl
      · next hgroups hhaving => rw [hgroups, hhaving]; rfl
      · next hgroups hhaving hterms => rw [hgroups, hhaving, hterms]; rfl
      · next hgroups hhaving hterms => rw [hgroups, hhaving, hterms]; rfl

/-- What the validator says of a query is what the rules say of the calls that
made it. -/
theorem violation?_eq_verdict (h : Reachable ts q) : q.violation? = verdict q.options ts := by
  have hif (c : Prop) [Decidable c] (first other rest : Option Violation) :
      (if c then first else other).or rest = if c then first.or rest else other.or rest := by
    split <;> rfl
  rw [violation?, Descriptor.violation?_eq_or, h.checkSelection_eq, h.checkAssignments_eq,
    h.checkGuard_eq, h.checkPlaceholders_eq, h.checkSubject_eq, h.checkInline_eq, verdict]
  split
  · rfl
  · simp only [hif, Option.none_or, Option.some_or]

/-- The first call has made an UPDATE of this chain, so that a record without columns
is no matter. Two rules are broken, and the first of them is told: there are two
question marks too many, and the grouping could not be written out. -/
theorem violation?_eq_verdict_update :
    let ts : List Transition :=
      [.update "users", .select ["id"], .set (.ofPairs [("name", .text "x")]), .force true,
        .filter (.compare "id" (.spelled "=") (.integer 1)), .force false,
        .filterRaw "a = ? OR b = ? OR c = ?", .extend .and (.compare "d" (.spelled "<") .null),
        .groupBy ["name; --"], .insertInto "logs" .empty]
    let root : Options Unit := { table := some "posts", clauseStyle := .inline }
    ∃ q : Query Unit, (ofOptions root).chain ts = .ok q ∧
      q.violation? = some (.placeholderMismatch 4 2) := by
  intro ts root
  obtain ⟨q, hq, hverdict⟩ : ∃ q : Query Unit, (ofOptions root).chain ts = .ok q ∧
      verdict q.options ts = some (.placeholderMismatch 4 2) := ⟨_, rfl, by decide⟩
  exact ⟨q, hq, (violation?_eq_verdict (reachable_iff.mpr ⟨_, hq⟩)).trans hverdict⟩

end SqlChain.Query
