import SqlChain.Proofs.Placeholders

/-!
# The predicate of a chain

A call that sets a predicate puts its text in the place of the one before, and a
call that extends one writes at its end. The values go another way: what a
condition binds is appended and stays, whether or not the text of the condition
does. So the chain is parted at the last call that sets a predicate. The text is
what the calls from there on have written, `predicateText`; the values are those
of all calls.

That would bind the values of a condition that is gone. What stands against it is
that a valid predicate has as many values as question marks, and a condition
brings one for one. So values can be left over only if someone else brought the
question marks for them: the caller, in a predicate written out, in the name of
a column or in an operator. `leftover_values` counts them.
-/

namespace SqlChain

/-! ## What a call adds to the predicate -/

namespace ConditionArg

/-- The text of the condition that is meant. -/
def sql (condition : ConditionArg) : String := condition.resolve.toOption.elim "" Condition.sql

/-- The values that the condition binds. -/
def values (condition : ConditionArg) : List Value :=
  condition.resolve.toOption.elim [] Condition.values

/-- The caller's words in the text of the condition. -/
def verbatim (condition : ConditionArg) : List String :=
  condition.resolve.toOption.elim [] fun c => [c.column, c.operator.text]

variable {condition : ConditionArg} {c : Condition}

theorem sql_of_resolve (hc : condition.resolve = .ok c) : condition.sql = c.sql := by
  rw [sql, hc]
  rfl

theorem values_of_resolve (hc : condition.resolve = .ok c) : condition.values = c.values := by
  rw [values, hc]
  rfl

end ConditionArg

namespace Transition

/-- The values that a call binds. -/
def bound : Transition → List Value
  | .filter condition => condition.values
  | .extend _ condition => condition.values
  | _ => []

/-- What a call writes at the end of the predicate. -/
def writes : Transition → String
  | .filter condition => condition.sql
  | .filterRaw predicate => predicate
  | .extend connective condition => " " ++ connective.text ++ " " ++ condition.sql
  | _ => ""

/-- The caller's words in what a call writes. -/
def verbatim : Transition → List String
  | .filter condition => condition.verbatim
  | .filterRaw predicate => [predicate]
  | .extend _ condition => condition.verbatim
  | _ => []

end Transition

/-- A condition has the question mark of its value besides those of its words. -/
theorem Condition.placeholders_sql (c : Condition) :
    Text.placeholders c.sql =
      c.values.length + ([c.column, c.operator.text].map Text.placeholders).sum := by
  have hblank : Text.placeholders " " = 0 := by decide
  have hmark : Text.placeholders " ?" = 1 := by decide
  obtain ⟨column, operator, value⟩ := c
  cases value with
  | none =>
      simp only [sql, values, Text.placeholders_append, hblank, Option.toList, List.length_nil,
        List.map_cons, List.map_nil, List.sum_cons, List.sum_nil]
      omega
  | some v =>
      simp only [sql, values, Text.placeholders_append, hblank, hmark, Option.toList,
        List.length_cons, List.length_nil, List.map_cons, List.map_nil, List.sum_cons,
        List.sum_nil]
      omega

theorem ConditionArg.placeholders_sql (condition : ConditionArg) :
    Text.placeholders condition.sql =
      condition.values.length + (condition.verbatim.map Text.placeholders).sum := by
  rw [sql, values, verbatim]
  cases condition.resolve with
  | error e => rfl
  | ok c => exact c.placeholders_sql

theorem Transition.placeholders_writes (t : Transition) :
    Text.placeholders t.writes = t.bound.length + (t.verbatim.map Text.placeholders).sum := by
  cases t
  case filter condition => exact condition.placeholders_sql
  case filterRaw predicate =>
    show Text.placeholders predicate = 0 + (Text.placeholders predicate + 0)
    omega
  case extend connective condition =>
    have hconnective : Text.placeholders (" " ++ connective.text ++ " ") = 0 := by
      cases connective <;> decide
    rw [writes, Text.placeholders_append, hconnective, Nat.zero_add]
    exact condition.placeholders_sql
  all_goals rfl

/-! ## The calls whose text stands -/

namespace Query

/-- The calls of a chain, parted at the last one that sets a predicate: those
before it, whose text is gone, and those from there on. As long as none sets a
predicate, nothing has been replaced. -/
def parted (ts : List Transition) : List Transition × List Transition :=
  ts.foldl (fun parts t =>
    if t.setsPredicate then (parts.1 ++ parts.2, [t]) else (parts.1, parts.2 ++ [t])) ([], [])

/-- The calls before the last one that sets a predicate. -/
def replaced (ts : List Transition) : List Transition := (parted ts).1

/-- The calls from the last one on that sets a predicate. -/
def standing (ts : List Transition) : List Transition := (parted ts).2

theorem parted_concat (ts : List Transition) (t : Transition) :
    parted (ts ++ [t]) =
      if t.setsPredicate then (replaced ts ++ standing ts, [t])
      else (replaced ts, standing ts ++ [t]) := by
  rw [parted, List.foldl_append]
  rfl

theorem standing_concat (ts : List Transition) (t : Transition) :
    standing (ts ++ [t]) = if t.setsPredicate then [t] else standing ts ++ [t] := by
  rw [standing, parted_concat]
  split <;> rfl

theorem replaced_append_standing (ts : List Transition) : replaced ts ++ standing ts = ts := by
  induction ts using List.reverseRecOn with
  | nil => rfl
  | append_singleton ts t ih =>
      rw [replaced, standing, parted_concat]
      split
      · rw [ih]
      · rw [← List.append_assoc, ih]

/-- What the standing calls have written. -/
def predicateText (ts : List Transition) : String :=
  String.join ((standing ts).map Transition.writes)

/-- The predicate of a chain, if some call has set one. -/
def predicate? (ts : List Transition) : Option String :=
  if ts.any Transition.setsPredicate then some (predicateText ts) else none

theorem predicate?_of_sets (ts : List Transition) {t : Transition}
    (ht : t.setsPredicate = true) : predicate? (ts ++ [t]) = some t.writes := by
  have hany : (ts ++ [t]).any Transition.setsPredicate = true := by simp [ht]
  rw [predicate?, if_pos hany, predicateText, standing_concat, if_pos ht]
  exact congrArg some (String.join_cons.trans String.append_empty)

theorem predicate?_of_not_sets (ts : List Transition) {t : Transition}
    (ht : t.setsPredicate = false) :
    predicate? (ts ++ [t]) = (predicate? ts).map (· ++ t.writes) := by
  have hany : (ts ++ [t]).any Transition.setsPredicate = ts.any Transition.setsPredicate := by
    simp [ht]
  have hn : ¬ t.setsPredicate = true := by simp [ht]
  have htext : predicateText (ts ++ [t]) = predicateText ts ++ t.writes := by
    rw [predicateText, standing_concat, if_neg hn, List.map_append, String.join_append]
    exact congrArg (predicateText ts ++ ·) (String.join_cons.trans String.append_empty)
  rw [predicate?, predicate?, hany, htext]
  split <;> rfl

/-- A call that writes nothing leaves the predicate as it is. -/
theorem predicate?_of_silent (ts : List Transition) {t : Transition}
    (ht : t.setsPredicate = false) (hw : t.writes = "") :
    predicate? (ts ++ [t]) = predicate? ts := by
  rw [predicate?_of_not_sets ts ht, hw]
  cases predicate? ts with
  | none => rfl
  | some predicate => exact congrArg some String.append_empty

theorem placeholders_predicateText (ts : List Transition) :
    Text.placeholders (predicateText ts) =
      ((standing ts).flatMap Transition.bound).length +
        (((standing ts).flatMap Transition.verbatim).map Text.placeholders).sum := by
  rw [predicateText, Text.placeholders_join]
  induction standing ts with
  | nil => rfl
  | cons t rest ih =>
      simp only [List.map_cons, List.sum_cons, List.flatMap_cons, List.length_append,
        List.map_append, List.sum_append_nat, Transition.placeholders_writes] at ih ⊢
      omega

/-! ## The predicate and its values -/

variable {κ : Type} {ts : List Transition} {q : Query κ}

theorem Reachable.whereClause_eq (h : Reachable ts q) :
    q.descriptor.whereClause = predicate? ts := by
  refine induct (P := fun ts d => d.whereClause = predicate? ts) (fun _ => rfl) ?_ h
  intro ts d t e ih ht
  cases ht
  case filter condition c hc =>
    rw [predicate?_of_sets ts rfl, Transition.writes, ConditionArg.sql_of_resolve hc]
    rfl
  case filterRaw predicate => exact (predicate?_of_sets ts (t := .filterRaw predicate) rfl).symm
  case extend predicate condition c connective hp hc =>
    rw [predicate?_of_not_sets ts rfl, ← ih, hp, Transition.writes,
      ConditionArg.sql_of_resolve hc]
    show some (predicate ++ " " ++ connective.text ++ " " ++ c.sql) =
      some (predicate ++ (" " ++ connective.text ++ " " ++ c.sql))
    simp only [String.append_assoc]
  all_goals
    rw [predicate?_of_silent ts rfl rfl]
    exact ih

theorem Reachable.whereParameters_eq (h : Reachable ts q) :
    q.descriptor.whereParameters = ts.flatMap Transition.bound := by
  refine induct (P := fun ts d => d.whereParameters = ts.flatMap Transition.bound)
    (fun _ => rfl) ?_ h
  intro ts d t e ih ht
  rw [List.flatMap_append, List.flatMap_singleton, ← ih]
  cases ht
  case filter condition c hc => rw [Transition.bound, ConditionArg.values_of_resolve hc]; rfl
  case extend predicate condition c connective hp hc =>
    rw [Transition.bound, ConditionArg.values_of_resolve hc]
    rfl
  all_goals exact (List.append_nil _).symm

/-! ## Values that are left over -/

/-- The values are those of the conditions that are gone and then those of the
conditions that stand. -/
theorem Reachable.whereParameters_parted (h : Reachable ts q) :
    q.descriptor.whereParameters =
      (replaced ts).flatMap Transition.bound ++ (standing ts).flatMap Transition.bound := by
  rw [← List.flatMap_append, replaced_append_standing]
  exact h.whereParameters_eq

/-- Without a predicate no call has brought words into one. -/
theorem Reachable.verbatim_eq_nil (h : Reachable ts q) (hw : q.descriptor.whereClause = none) :
    ts.flatMap Transition.verbatim = [] := by
  refine induct (P := fun ts d => d.whereClause = none → ts.flatMap Transition.verbatim = [])
    (fun _ _ => rfl) ?_ h hw
  intro ts d t e ih ht he
  rw [List.flatMap_append, List.flatMap_singleton]
  cases ht
  case filter => cases he
  case filterRaw => cases he
  case extend => cases he
  all_goals exact (List.append_nil _).trans (ih he)

/-- In a valid query a value is left over for each question mark among the
caller's words. -/
theorem length_leftover (h : Reachable ts q) (hv : q.descriptor.IsValid) :
    ((replaced ts).flatMap Transition.bound).length =
      (((standing ts).flatMap Transition.verbatim).map Text.placeholders).sum := by
  cases hw : q.descriptor.whereClause with
  | none =>
      have hvalues := h.whereParameters_parted
      have hwords := h.verbatim_eq_nil hw
      rw [h.whereParameters_eq_nil hw] at hvalues
      rw [← replaced_append_standing ts, List.flatMap_append] at hwords
      rw [(List.append_eq_nil_iff.mp hvalues.symm).1, (List.append_eq_nil_iff.mp hwords).2]
      rfl
  | some predicate =>
      have htext : predicateText ts = predicate := by
        have hp := h.whereClause_eq
        rw [hw, predicate?] at hp
        split at hp
        · exact (Option.some.inj hp).symm
        · cases hp
      have hmarks := hv.placeholders hw
      rw [h.whereParameters_parted, List.length_append, ← htext,
        placeholders_predicateText] at hmarks
      omega

/-- The values of a valid query are those of the conditions that stand exactly if
the caller has brought no question mark into the predicate; where he has not, a
query with values left over is not valid. -/
theorem leftover_values (h : Reachable ts q) :
    q.descriptor.whereParameters =
        (replaced ts).flatMap Transition.bound ++ (standing ts).flatMap Transition.bound ∧
      (q.descriptor.IsValid →
        ((replaced ts).flatMap Transition.bound).length =
            (((standing ts).flatMap Transition.verbatim).map Text.placeholders).sum ∧
          (q.descriptor.whereParameters = (standing ts).flatMap Transition.bound ↔
            ∀ word ∈ (standing ts).flatMap Transition.verbatim, '?' ∉ word.toList)) ∧
      ((∀ word ∈ (standing ts).flatMap Transition.verbatim, '?' ∉ word.toList) →
        (replaced ts).flatMap Transition.bound ≠ [] → ¬ q.descriptor.IsValid) := by
  have hzero : (((standing ts).flatMap Transition.verbatim).map Text.placeholders).sum = 0 ↔
      ∀ word ∈ (standing ts).flatMap Transition.verbatim, '?' ∉ word.toList := by
    rw [List.sum_eq_zero_iff_forall_eq_nat]
    simp only [List.forall_mem_map, Text.placeholders_eq_zero_iff]
  refine ⟨h.whereParameters_parted, fun hv => ?_, fun hwords hleft hv => ?_⟩
  · have hlength := length_leftover h hv
    refine ⟨hlength, ?_⟩
    rw [← hzero, ← hlength, List.length_eq_zero_iff, h.whereParameters_parted]
    exact List.append_left_eq_self
  · have hlength := length_leftover h hv
    rw [hzero.mpr hwords, List.length_eq_zero_iff] at hlength
    exact hleft hlength

/-- A predicate that took the place of one without a value, and was extended. -/
theorem leftover_values_replaced :
    let ts : List Transition :=
      [.fromTable "users", .filter (.ask "email" (.spelled "is null")), .limit 5,
        .filter (.compare "id" (.spelled "=") (.integer 7)), .orderBy (.written "id"),
        .extend .or (.compare "age" (.spelled ">") (.integer 30))]
    ∃ q : Query Unit, new.chain ts = .ok q ∧ q.descriptor.IsValid ∧
      q.descriptor.whereParameters = [.integer 7, .integer 30] := by
  intro ts
  obtain ⟨q, hq, hv, hbound, hwords⟩ : ∃ q : Query Unit, new.chain ts = .ok q ∧
      q.descriptor.IsValid ∧
      (standing ts).flatMap Transition.bound = [.integer 7, .integer 30] ∧
      ∀ word ∈ (standing ts).flatMap Transition.verbatim, '?' ∉ word.toList :=
    ⟨_, rfl, by decide, by decide, by decide⟩
  obtain ⟨-, hvalid, -⟩ := leftover_values (reachable_iff.mpr ⟨_, hq⟩)
  exact ⟨q, hq, hv, ((hvalid hv).2.mpr hwords).trans hbound⟩

/-- A value is left over and bound to a question mark that was written out: the
query is valid, and what it binds belongs to a condition that is gone. -/
theorem exists_isValid_leftover :
    let ts : List Transition :=
      [.fromTable "users", .filter (.compare "a" (.spelled "=") (.integer 1)), .filterRaw "b = ?"]
    ∃ q : Query Unit, new.chain ts = .ok q ∧ q.descriptor.IsValid ∧
      (replaced ts).flatMap Transition.bound = [.integer 1] ∧
      (standing ts).flatMap Transition.bound = [] ∧
      q.descriptor.whereParameters = [.integer 1] :=
  ⟨_, rfl, by decide, by decide, by decide, by decide⟩

end Query

end SqlChain
