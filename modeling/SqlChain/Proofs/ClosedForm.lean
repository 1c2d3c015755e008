import SqlChain.Proofs.Foreign

/-!
# The predicate in closed form

What a chain has made of its predicate can be told without running it, and the text
and the values follow two laws. The text begins anew at the last call that sets a
predicate and grows by each connective after it; the values begin at the root and are
never taken back.

A connective looks for the predicate before it looks at its condition. So without a
predicate it is a misuse whatever the condition is, even one that would not be
understood; and what is not understood is told by every other call of a condition.
-/

namespace SqlChain

/-! ## Conditions as they are given -/

theorem Condition.sql_eq (c : Condition) :
    c.sql = c.column ++ " " ++ c.operator.text ++ if c.value.isSome then " ?" else "" := by
  obtain ⟨column, operator, value⟩ := c
  cases value with
  | none => exact String.append_empty.symm
  | some v => rfl

namespace ConditionArg

variable (column : String) (operator : OperatorArg)

theorem resolve_compare (value : Value) :
    (compare column operator value).resolve =
      operator.resolve.map fun o => ⟨column, o, if o.isUnary then none else some value⟩ := by
  rw [resolve]
  cases operator.resolve <;> rfl

theorem resolve_ask :
    (ask column operator).resolve = operator.resolve.map fun o => ⟨column, o, none⟩ := by
  rw [resolve]
  cases operator.resolve <;> rfl

end ConditionArg

theorem Descriptor.Becomes.resolves {d e : Descriptor} {t : Transition} (ht : d.Becomes t e) :
    t.Resolves := by
  cases ht
  case on o _ _ ho => exact ⟨o, ho⟩
  case filter c hc => exact ⟨c, hc⟩
  case extend c _ _ hc => exact ⟨c, hc⟩
  all_goals trivial

namespace Query

variable {κ : Type} {ts : List Transition} {q : Query κ}

/-- A chain that goes well has no operator that is not known. -/
theorem Reachable.resolves (h : Reachable ts q) : ∀ t ∈ ts, t.Resolves := by
  refine induct (P := fun ts _ => ∀ t ∈ ts, t.Resolves) (fun _ t ht => ?_) ?_ h
  · exact absurd ht List.not_mem_nil
  · intro ts d t e ih ht u hu
    rcases List.mem_append.mp hu with hu | hu
    · exact ih u hu
    · rw [List.mem_singleton.mp hu]
      exact ht.resolves

/-! ## How the calls of a condition end -/

theorem apply_filter (q : Query κ) (condition : ConditionArg) :
    q.apply (.filter condition) =
      (condition.resolve.mapError .unknownOperator).map fun c =>
        { q with descriptor := q.descriptor.filter c } := by
  rw [apply, Descriptor.apply]
  cases condition.resolve <;> rfl

theorem apply_extend_of_none (hw : q.descriptor.whereClause = none) (connective : Connective)
    (condition : ConditionArg) :
    q.apply (.extend connective condition) =
      .error (.misuse (.connectiveBeforeWhere connective)) := by
  rw [apply, Descriptor.apply, hw]
  rfl

theorem apply_extend_of_some {predicate : String} (hw : q.descriptor.whereClause = some predicate)
    (connective : Connective) (condition : ConditionArg) :
    q.apply (.extend connective condition) =
      (condition.resolve.mapError .unknownOperator).map fun c =>
        { q with descriptor := q.descriptor.extend predicate connective c } := by
  rw [apply, Descriptor.apply, hw]
  cases condition.resolve <;> rfl

/-! ## The last call that sets a predicate -/

/-- What stands is what follows the last call that sets a predicate, and that call. -/
theorem standing_of_last {before after : List Transition} {t : Transition}
    (ht : t.setsPredicate = true) (hafter : ∀ u ∈ after, u.setsPredicate = false) :
    standing (before ++ t :: after) = t :: after := by
  -- on the end of `after`, where `standing` grows
  induction after using List.reverseRecOn with
  | nil => rw [standing_concat, if_pos ht]
  | append_singleton after u ih =>
      obtain ⟨hafter, hu⟩ := List.forall_mem_append.mp hafter
      have hn : ¬ u.setsPredicate = true := by simp [hu u List.mem_cons_self]
      rw [← List.cons_append, ← List.append_assoc, standing_concat, if_neg hn, ih hafter]

theorem Reachable.whereClause_of_last {before after : List Transition} {t : Transition}
    (h : Reachable (before ++ t :: after) q) (ht : t.setsPredicate = true)
    (hafter : ∀ u ∈ after, u.setsPredicate = false) :
    q.descriptor.whereClause = some (t.writes ++ String.join (after.map Transition.writes)) := by
  have hany : (before ++ t :: after).any Transition.setsPredicate = true := by simp [ht]
  rw [h.whereClause_eq, predicate?, if_pos hany, predicateText, standing_of_last ht hafter,
    List.map_cons, String.join_cons]

theorem Reachable.whereClause_eq_none_iff (h : Reachable ts q) :
    q.descriptor.whereClause = none ↔ ∀ t ∈ ts, t.setsPredicate = false := by
  rw [← Option.not_isSome_iff_eq_none, h.isSome_whereClause, List.any_eq_true]
  simp

/-- The text of a predicate is that of the last call that sets one and of the connectives
after it, each with its condition; the values are those of all conditions since the root,
in order. A connective is a misuse exactly where no call has set a predicate before it,
and only then does it not matter whether its condition is understood. -/
theorem predicate_closed_form (h : Reachable ts q) :
    (q.descriptor.whereClause = none ↔ ∀ t ∈ ts, t.setsPredicate = false) ∧
      (∀ before t after, ts = before ++ t :: after → t.setsPredicate = true →
        (∀ u ∈ after, u.setsPredicate = false) →
          q.descriptor.whereClause =
            some (t.writes ++ String.join (after.map Transition.writes))) ∧
      q.descriptor.whereParameters = ts.flatMap Transition.bound ∧
      (∀ t ∈ ts, t.Resolves) ∧
      (∀ c : Condition,
        c.sql = c.column ++ " " ++ c.operator.text ++ (if c.value.isSome then " ?" else "") ∧
          c.values = c.value.toList) ∧
      (∀ column operator value,
        (ConditionArg.compare column operator value).resolve =
          operator.resolve.map fun o => ⟨column, o, if o.isUnary then none else some value⟩) ∧
      (∀ column operator,
        (ConditionArg.ask column operator).resolve =
          operator.resolve.map fun o => ⟨column, o, none⟩) ∧
      (∀ condition, q.apply (.filter condition) =
        (condition.resolve.mapError .unknownOperator).map fun c =>
          { q with descriptor := q.descriptor.filter c }) ∧
      ∀ connective condition, q.apply (.extend connective condition) =
        if ∃ t ∈ ts, t.setsPredicate = true then
          (condition.resolve.mapError .unknownOperator).map fun c =>
            { q with descriptor := q.descriptor.extend (predicateText ts) connective c }
        else .error (.misuse (.connectiveBeforeWhere connective)) := by
  refine ⟨h.whereClause_eq_none_iff, ?text, h.whereParameters_eq, h.resolves,
    fun c => ⟨c.sql_eq, rfl⟩, ConditionArg.resolve_compare, ConditionArg.resolve_ask,
    apply_filter q, ?connectives⟩
  case text =>
    rintro before t after rfl ht hafter
    exact h.whereClause_of_last ht hafter
  case connectives =>
    intro connective condition
    by_cases hset : ∃ t ∈ ts, t.setsPredicate = true
    · have hw : q.descriptor.whereClause = some (predicateText ts) := by
        rw [h.whereClause_eq, predicate?, if_pos (List.any_eq_true.mpr hset)]
      rw [if_pos hset]
      exact apply_extend_of_some hw connective condition
    · have hw : q.descriptor.whereClause = none := by
        rw [h.whereClause_eq_none_iff]
        simpa using hset
      rw [if_neg hset]
      exact apply_extend_of_none hw connective condition

/-- A predicate that took the place of another and was then extended. The value for an
operator that takes none is dropped, and a further connective is refused for its
operator. -/
theorem predicate_closed_form_replaced :
    let ts : List Transition :=
      [.fromTable "users", .filter (.compare "id" (.spelled "=") (.integer 1)),
        .extend .and (.compare "age" (.spelled ">") (.integer 18)), .limit 5,
        .filter (.compare "email" (.spelled " is not null ") (.text "dropped")),
        .extend .or (.ask "name" (.spelled "is null")), .orderBy (.written "id"),
        .extend .and (.compare "city" (.spelled "like") (.text "x%"))]
    ∃ q : Query Unit, new.chain ts = .ok q ∧
      q.descriptor.whereClause = some "email IS NOT NULL OR name IS NULL AND city LIKE ?" ∧
      q.descriptor.whereParameters = [.integer 1, .integer 18, .text "x%"] ∧
      q.apply (.extend .or (.ask "age" (.spelled "=>"))) =
        .error (.unknownOperator ⟨"=>"⟩) := by
  intro ts
  obtain ⟨q, hq⟩ : ∃ q : Query Unit, new.chain ts = .ok q := ⟨_, rfl⟩
  obtain ⟨-, htext, hvalues, -, -, -, -, -, hextend⟩ :=
    predicate_closed_form (reachable_iff.mpr ⟨_, hq⟩)
  refine ⟨q, hq, ?_, ?_, ?_⟩
  · rw [htext (ts.take 4) (ts[4]) (ts.drop 5) (by decide) (by decide) (by decide)]
    decide
  · rw [hvalues]
    decide
  · rw [hextend, if_pos (by decide)]
    rfl

end Query

end SqlChain
