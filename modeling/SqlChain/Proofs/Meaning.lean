import Mathlib.Data.Set.Lattice
import SqlChain.Proofs.Reading

/-!
# What a chain of conditions means

Whoever writes `filter`, `and` and `or` one after another may think that each call is
applied to what the calls before it have made. That is not what the predicate says: the
calls write at the end of a text, and the reader of the text lets `AND` bind tighter. An
`and` after an `or` belongs to the condition of the `or` alone.

This file says what such a chain does mean. The calls fall into groups, a new one at
each `or`. A row is matched if there is a group all of whose conditions are true in it. So `or`
adds the rows of its condition, and `and` takes rows away, but those that it leaves
satisfy its condition only as long as there has been no `or`.

Rows and what conditions say of them are left open: a condition may be true, false or
unknown in a row, as it likes.
-/

namespace SqlChain

open Sqlite (Truth)

namespace Sqlite.Truth

theorem and_eq_true_iff (s t : Truth) : s.and t = some true ↔ s = some true ∧ t = some true := by
  rcases s with _ | _ | _ <;> rcases t with _ | _ | _ <;> decide

theorem or_eq_true_iff (s t : Truth) : s.or t = some true ↔ s = some true ∨ t = some true := by
  rcases s with _ | _ | _ <;> rcases t with _ | _ | _ <;> decide

end Sqlite.Truth

/-! ## Groups -/

/-- The groups of conditions that calls make, a new one at each `or`. The first begins with
the conditions `group`. -/
def groups (group : List Condition) : List (Connective × Condition) → List (List Condition)
  | [] => [group]
  | (.and, c) :: links => groups (group ++ [c]) links
  | (.or, c) :: links => group :: groups [c] links

theorem groups_concat_or (group : List Condition) (links : List (Connective × Condition))
    (c : Condition) : groups group (links ++ [(.or, c)]) = groups group links ++ [[c]] := by
  induction links generalizing group with
  | nil => rfl
  | cons l links ih =>
      obtain ⟨connective, d⟩ := l
      cases connective with
      | and => exact ih (group ++ [d])
      | or => exact congrArg (group :: ·) (ih [d])

/-- One more `and` belongs to the last group. -/
theorem groups_concat_and (group : List Condition) (links : List (Connective × Condition))
    (c : Condition) : ∃ front last, groups group links = front ++ [last] ∧
      groups group (links ++ [(.and, c)]) = front ++ [last ++ [c]] := by
  induction links generalizing group with
  | nil => exact ⟨[], group, rfl, rfl⟩
  | cons l links ih =>
      obtain ⟨connective, d⟩ := l
      cases connective with
      | and => exact ih (group ++ [d])
      | or =>
          obtain ⟨front, last, hbefore, hafter⟩ := ih [d]
          exact ⟨group :: front, last, congrArg (group :: ·) hbefore,
            congrArg (group :: ·) hafter⟩

theorem groups_of_and {links : List (Connective × Condition)} (h : ∀ l ∈ links, l.1 = .and)
    (group : List Condition) : groups group links = [group ++ links.map Prod.snd] := by
  induction links generalizing group with
  | nil => exact congrArg (fun g => [g]) (List.append_nil group).symm
  | cons l links ih =>
      obtain ⟨connective, d⟩ := l
      obtain ⟨rfl, hlinks⟩ := List.forall_mem_cons.mp h
      rw [groups, ih hlinks, List.append_assoc]
      rfl

namespace Formula

variable {holds : Condition → Truth} {f : Formula} {group : List Condition}

/-- The formula that is read is true if all conditions of some group are. -/
theorem truth_ofLinks (hf : f.truth holds = some true ↔ ∀ c ∈ group, holds c = some true)
    (links : List (Connective × Condition)) :
    (f.ofLinks links).truth holds = some true ↔
      ∃ g ∈ groups group links, ∀ c ∈ g, holds c = some true := by
  -- `AND` adds its condition to the formula and to the group, `OR` begins both anew
  induction links generalizing f group with
  | nil => simpa [ofLinks, groups] using hf
  | cons l links ih =>
      obtain ⟨connective, d⟩ := l
      cases connective with
      | and =>
          refine ih ?_
          rw [truth, Truth.and_eq_true_iff, hf, List.forall_mem_append, List.forall_mem_singleton]
          rfl
      | or =>
          have hd : (condition d).truth holds = some true ↔ ∀ c ∈ [d], holds c = some true := by
            rw [List.forall_mem_singleton]
            rfl
          rw [ofLinks, truth, Truth.or_eq_true_iff, hf, ih hd, groups]
          simp only [List.mem_cons, exists_eq_or_imp]

end Formula

/-! ## The rows of a query -/

/-- The condition that a call joins to the predicate, and how. -/
def Transition.link? : Transition → Option (Connective × Condition)
  | .extend connective condition => condition.resolve.toOption.map (connective, ·)
  | _ => none

/-- What a call adds to a predicate that it does not set is what it joins to it. -/
theorem Transition.writes_of_not_sets {t : Transition} (ht : t.setsPredicate = false)
    (hr : t.Resolves) :
    t.writes = t.link?.elim "" Formula.linkText ∧ t.bound = t.link?.elim [] (·.2.values) := by
  cases t
  case filter => cases ht
  case filterRaw => cases ht
  case extend connective condition =>
    obtain ⟨c, hc⟩ := hr
    rw [writes, bound, link?, ConditionArg.sql_of_resolve hc, ConditionArg.values_of_resolve hc, hc]
    exact ⟨rfl, rfl⟩
  all_goals exact ⟨rfl, rfl⟩

variable {κ ρ : Type}

/-- The rows in which a condition is true. -/
def Condition.rows (holds : ρ → Condition → Truth) (c : Condition) : Set ρ :=
  { row | holds row c = some true }

namespace Query

/-- The conditions that are joined to a predicate, in order. -/
def links (ts : List Transition) : List (Connective × Condition) :=
  ts.filterMap Transition.link?

/-- The rows that the WHERE clause of the statement matches, as it is read with the values
that it binds. -/
def matched (holds : ρ → Condition → Truth) (q : Query κ) : Set ρ :=
  { row | ∃ predicate values f, q.descriptor.whereTail = ⟨" WHERE " ++ predicate, values⟩ ∧
    Formula.read? predicate values = some f ∧ f.truth (holds row) = some true }

/-- Where the predicate can be read, the formula says which rows are matched. -/
theorem matched_eq {q : Query κ} {predicate : String} {f : Formula}
    (hw : q.descriptor.whereClause = some predicate)
    (hf : Formula.read? predicate q.descriptor.whereParameters = some f)
    (holds : ρ → Condition → Truth) :
    q.matched holds = { row | f.truth (holds row) = some true } := by
  have htail := Descriptor.whereTail_of_some hw
  ext row
  constructor
  · rintro ⟨p, values, g, hp, hg, hrow⟩
    rw [htail] at hp
    obtain ⟨htext, rfl⟩ := Clause.mk.inj hp
    have hsame : predicate = p := (String.append_right_inj " WHERE ").mp htext
    rw [← hsame, hf] at hg
    cases hg
    exact hrow
  · exact fun hrow => ⟨predicate, _, f, htail, hf, hrow⟩

/-! ## A chain that sets its predicate once -/

variable {before after : List Transition} {condition : ConditionArg} {first : Condition}
  {q : Query κ}

theorem links_cons (t : Transition) (ts : List Transition) :
    links (t :: ts) = t.link?.toList ++ links ts := by
  rw [links, List.filterMap_cons]
  cases t.link? <;> rfl

theorem links_append (ts us : List Transition) : links (ts ++ us) = links ts ++ links us :=
  List.filterMap_append

theorem and_of_mem_links {ts : List Transition} (h : ∀ joined, Transition.extend .or joined ∉ ts) :
    ∀ l ∈ links ts, l.1 = .and := by
  intro l hl
  obtain ⟨t, ht, hlink⟩ := List.mem_filterMap.mp hl
  cases t
  case extend connective joined =>
    obtain ⟨c, -, rfl⟩ := Option.map_eq_some_iff.mp hlink
    cases connective with
    | and => rfl
    | or => exact absurd ht (h joined)
  all_goals cases hlink

theorem writes_eq_links {ts : List Transition} (hsets : ∀ t ∈ ts, t.setsPredicate = false)
    (hresolves : ∀ t ∈ ts, t.Resolves) :
    String.join (ts.map Transition.writes) = String.join ((links ts).map Formula.linkText) ∧
      ts.flatMap Transition.bound = (links ts).flatMap (·.2.values) := by
  induction ts with
  | nil => exact ⟨rfl, rfl⟩
  | cons t ts ih =>
      obtain ⟨hset, hsets⟩ := List.forall_mem_cons.mp hsets
      obtain ⟨hresolve, hresolves⟩ := List.forall_mem_cons.mp hresolves
      obtain ⟨htext, hvalues⟩ := ih hsets hresolves
      obtain ⟨hwrites, hbound⟩ := Transition.writes_of_not_sets hset hresolve
      rw [List.map_cons, String.join_cons, List.flatMap_cons, htext, hvalues, hwrites, hbound,
        links_cons]
      cases t.link? with
      | none => exact ⟨String.empty_append, rfl⟩
      | some l => exact ⟨String.join_cons.symm, rfl⟩

/-- A chain that sets its predicate once, by the condition `first`, and joins plain
conditions to it. -/
structure Conditions (before : List Transition) (condition : ConditionArg)
    (after : List Transition) (first : Condition) : Prop where
  before_sets : ∀ t ∈ before, t.setsPredicate = false
  after_sets : ∀ t ∈ after, t.setsPredicate = false
  first_eq : condition.resolve = .ok first
  first_plain : first.IsPlain
  links_plain : ∀ l ∈ links after, l.2.IsPlain

namespace Conditions

theorem whereClause_eq (hc : Conditions before condition after first)
    (h : Reachable (before ++ .filter condition :: after) q) :
    q.descriptor.whereClause =
      some (first.sql ++ String.join ((links after).map Formula.linkText)) := by
  have hresolves : ∀ t ∈ after, t.Resolves := fun t ht => h.resolves t (by simp [ht])
  have htext : (Transition.filter condition).writes = first.sql :=
    ConditionArg.sql_of_resolve hc.first_eq
  rw [h.whereClause_of_last rfl hc.after_sets, htext,
    (writes_eq_links hc.after_sets hresolves).1]

/-- As long as there was no predicate, nothing was joined to one. -/
theorem bound_before (hc : Conditions before condition after first)
    (h : Reachable (before ++ .filter condition :: after) q) :
    before.flatMap Transition.bound = [] := by
  obtain ⟨p, hp⟩ := h.exists_front
  rw [← hp.whereParameters_eq]
  exact hp.whereParameters_eq_nil (hp.whereClause_eq_none_iff.mpr hc.before_sets)

theorem whereParameters_eq (hc : Conditions before condition after first)
    (h : Reachable (before ++ .filter condition :: after) q) :
    q.descriptor.whereParameters = first.values ++ (links after).flatMap (·.2.values) := by
  have hresolves : ∀ t ∈ after, t.Resolves := fun t ht => h.resolves t (by simp [ht])
  have hvalues : (Transition.filter condition).bound = first.values :=
    ConditionArg.values_of_resolve hc.first_eq
  rw [h.whereParameters_eq, List.flatMap_append, List.flatMap_cons, hc.bound_before h, hvalues,
    (writes_eq_links hc.after_sets hresolves).2, List.nil_append]

theorem read?_eq (hc : Conditions before condition after first)
    (h : Reachable (before ++ .filter condition :: after) q) :
    Formula.read? (first.sql ++ String.join ((links after).map Formula.linkText))
        q.descriptor.whereParameters =
      some (.ofLinks (.condition first) (links after)) := by
  rw [hc.whereParameters_eq h]
  exact Formula.read?_text hc.first_plain hc.links_plain

theorem matched_eq (hc : Conditions before condition after first)
    (h : Reachable (before ++ .filter condition :: after) q) (holds : ρ → Condition → Truth) :
    q.matched holds = ⋃ group ∈ groups [first] (links after), ⋂ c ∈ group, c.rows holds := by
  rw [Query.matched_eq (hc.whereClause_eq h) (hc.read?_eq h)]
  ext row
  have hfirst : (Formula.condition first).truth (holds row) = some true ↔
      ∀ c ∈ [first], holds row c = some true := by
    rw [List.forall_mem_singleton]
    rfl
  simp only [Set.mem_ofPred_eq, Formula.truth_ofLinks hfirst, Set.mem_iUnion, Set.mem_iInter,
    Condition.rows, exists_prop]

/-- One more call of a plain condition. -/
theorem concat (hc : Conditions before condition after first) {next : ConditionArg} {c : Condition}
    (hnext : next.resolve = .ok c) (hplain : c.IsPlain) (connective : Connective) :
    Conditions before condition (after ++ [.extend connective next]) first ∧
      links (after ++ [.extend connective next]) = links after ++ [(connective, c)] := by
  have hlink : links [.extend connective next] = [(connective, c)] := by
    rw [links_cons, Transition.link?, hnext]
    rfl
  have hlinks : links (after ++ [.extend connective next]) = links after ++ [(connective, c)] := by
    rw [links_append, hlink]
  refine ⟨⟨hc.before_sets, ?_, hc.first_eq, hc.first_plain, ?_⟩, hlinks⟩
  · exact List.forall_mem_append.mpr ⟨hc.after_sets, List.forall_mem_singleton.mpr rfl⟩
  · rw [hlinks]
    exact List.forall_mem_append.mpr ⟨hc.links_plain, List.forall_mem_singleton.mpr hplain⟩

/-- One more call goes well, and its condition is the last of the groups. -/
theorem exists_next (hc : Conditions before condition after first)
    (h : Reachable (before ++ .filter condition :: after) q) {next : ConditionArg} {c : Condition}
    (hnext : next.resolve = .ok c) (hplain : c.IsPlain) (connective : Connective)
    (holds : ρ → Condition → Truth) :
    ∃ r, q.apply (.extend connective next) = .ok r ∧
      r.matched holds =
        ⋃ group ∈ groups [first] (links after ++ [(connective, c)]), ⋂ c ∈ group, c.rows holds := by
  obtain ⟨r, hr⟩ : ∃ r, q.apply (.extend connective next) = .ok r := by
    rw [apply_extend_of_some (hc.whereClause_eq h), hnext]
    exact ⟨_, rfl⟩
  obtain ⟨hconditions, hlinks⟩ := hc.concat hnext hplain connective
  have hreach := h.call hr
  rw [List.append_assoc, List.cons_append] at hreach
  refine ⟨r, hr, ?_⟩
  rw [hconditions.matched_eq hreach, hlinks]

end Conditions

/-- The rows that a chain of plain conditions matches are those of its groups: the
predicate that stands in the statement is read, with its own of the parameters, as the
conditions that were given, and a row is matched if all conditions of some group are true
in it. So one more `or` adds the rows of its condition; one more `and` adds none, and those
that are left satisfy its condition unless there was an `or` before it. -/
theorem matched_chain (hc : Conditions before condition after first)
    (h : Reachable (before ++ .filter condition :: after) q) (holds : ρ → Condition → Truth) :
    (∃ (predicate : String) (values : List Value) (front back : List Clause),
        q.descriptor.whereTail = ⟨" WHERE " ++ predicate, values⟩ ∧
        q.descriptor.clauses = front ++ q.descriptor.whereTail :: back ∧
        q.sql = (Statement.ofClauses front).sql ++ " WHERE " ++ predicate ++
          (Statement.ofClauses back).sql ∧
        q.parameters = (Statement.ofClauses front).parameters ++ values ++
          (Statement.ofClauses back).parameters ∧
        Formula.read? predicate values = some (.ofLinks (.condition first) (links after))) ∧
      q.matched holds = ⋃ group ∈ groups [first] (links after), ⋂ c ∈ group, c.rows holds ∧
      ∀ next c, next.resolve = .ok c → c.IsPlain →
        (∃ r, q.apply (.extend .or next) = .ok r ∧
          r.matched holds = q.matched holds ∪ c.rows holds) ∧
        ∃ r, q.apply (.extend .and next) = .ok r ∧
          r.matched holds ⊆ q.matched holds ∧
          ((∀ joined, .extend .or joined ∉ after) → r.matched holds ⊆ c.rows holds) := by
  have hmatched := hc.matched_eq h holds
  have hwhere := hc.whereClause_eq h
  obtain ⟨front, back, hclauses, hcompile⟩ := Descriptor.exists_compile_eq_where hwhere
  refine ⟨⟨_, _, front, back, Descriptor.whereTail_of_some hwhere, hclauses,
    congrArg Statement.sql hcompile, congrArg Statement.parameters hcompile, hc.read?_eq h⟩,
    hmatched, fun next c hnext hplain => ⟨?or, ?and⟩⟩
  case or =>
    obtain ⟨r, hr, hrows⟩ := hc.exists_next h hnext hplain .or holds
    refine ⟨r, hr, ?_⟩
    rw [hrows, hmatched, groups_concat_or]
    simp only [List.mem_append, List.mem_singleton, Set.iUnion_or, Set.iUnion_union_distrib,
      Set.iUnion_iUnion_eq_left, Set.iInter_iInter_eq_left]
  case and =>
    obtain ⟨r, hr, hrows⟩ := hc.exists_next h hnext hplain .and holds
    refine ⟨r, hr, ?_, fun hjoined => ?_⟩
    · obtain ⟨front, last, hbefore, hafter⟩ := groups_concat_and [first] (links after) c
      rw [hrows, hmatched, hbefore, hafter]
      simp only [List.mem_append, List.mem_singleton, Set.iUnion_or, Set.iUnion_union_distrib,
        Set.iUnion_iUnion_eq_left, Set.iInter_or, Set.iInter_inter_distrib]
      exact Set.union_subset_union_right _ Set.inter_subset_left
    · have hand : ∀ l ∈ links after ++ [(.and, c)], l.1 = .and :=
        List.forall_mem_append.mpr
          ⟨and_of_mem_links hjoined, List.forall_mem_singleton.mpr rfl⟩
      rw [hrows, groups_of_and hand]
      simp only [List.mem_singleton, Set.iUnion_iUnion_eq_left]
      exact fun row hrow => Set.mem_iInter₂.mp hrow c (by simp)

/-- An `and` after an `or` takes nothing from the rows of the condition before: for rows
that are told by what they say of conditions, there is one that is matched and in which
the condition of the `and` is false. -/
theorem matched_chain_or_and :
    let holds : (Condition → Truth) → Condition → Truth := fun row => row
    let own : Condition := ⟨"id", ⟨"="⟩, some (.integer 1)⟩
    let ownerless : Condition := ⟨"owner", ⟨"IS NULL"⟩, none⟩
    let adult : Condition := ⟨"age", ⟨">"⟩, some (.integer 18)⟩
    let ts : List Transition :=
      [.fromTable "users", .filter (.compare "id" (.spelled "=") (.integer 1)), .limit 5,
        .extend .or (.ask "owner" (.spelled "is null")),
        .extend .and (.compare "age" (.spelled ">") (.integer 18))]
    ∃ q : Query Unit, new.chain ts = .ok q ∧
      q.matched holds = own.rows holds ∪ ownerless.rows holds ∩ adult.rows holds ∧
      ∃ row ∈ q.matched holds, holds row adult = some false := by
  intro holds own ownerless adult ts
  obtain ⟨q, hq⟩ : ∃ q : Query Unit, new.chain ts = .ok q := ⟨_, rfl⟩
  have hreach : Reachable ts q := reachable_iff.mpr ⟨_, hq⟩
  have hconditions : Conditions [.fromTable "users"] (.compare "id" (.spelled "=") (.integer 1))
      (ts.drop 2) own := ⟨by decide, by decide, rfl, by decide, by decide⟩
  obtain ⟨-, hmatched, -⟩ := matched_chain hconditions hreach holds
  have hgroups : groups [own] (links (ts.drop 2)) = [[own], [ownerless, adult]] := by decide
  have hrows : q.matched holds = own.rows holds ∪ ownerless.rows holds ∩ adult.rows holds := by
    rw [hmatched, hgroups]
    ext row
    simp
  refine ⟨q, hq, hrows, fun c => some (c == own), ?_, by decide⟩
  rw [hrows]
  have hown : some (own == own) = some true := by decide
  exact .inl hown

end Query

end SqlChain
