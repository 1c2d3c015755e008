import SqlChain.Client.Scripted
import SqlChain.Execution
import SqlChain.Proofs.Reach

/-!
# No unguarded change reaches a client

An UPDATE or DELETE without a predicate changes every row of its table. It is
sent only if the chain says that it should be: by a predicate of its own, or by
`force`, the last word on which counts. The validator looks at the descriptor,
not at the chain, so there are two things to show. The descriptor has a
predicate or is forced only if the chain said so, whatever else was called in
between; and what a client is asked to prepare is what the validator has seen.
-/

namespace SqlChain

/-- The chain allows a change of rows: there is a predicate or the word that
none is meant, and an UPDATE says what it sets. -/
structure Permitted (ts : List Transition) (mode : Option Mode) : Prop where
  guarded : (∃ t ∈ ts, t.setsPredicate = true) ∨
    ts.findSomeRev? Transition.force? = some true
  assigned : mode = some .update → ∃ data, Transition.set data ∈ ts

/-! ## What being valid says of the chain -/

theorem exists_set_of_findSomeRev? {ts : List Transition} {data : Record}
    (h : ts.findSomeRev? Transition.data? = some data) : Transition.set data ∈ ts := by
  rw [List.findSomeRev?_eq_findSome?_reverse] at h
  obtain ⟨t, ht, hd⟩ := List.exists_of_findSome?_eq_some h
  cases t <;> cases hd
  exact List.mem_reverse.mp ht

namespace Query

variable {κ σ α β : Type} {ts : List Transition} {q : Query κ}

theorem permitted_of_isValid (h : Reachable ts q) (hv : q.descriptor.IsValid)
    (hm : q.descriptor.effectiveMode = some .update ∨ q.descriptor.effectiveMode = some .delete) :
    Permitted ts q.descriptor.effectiveMode := by
  constructor
  · rcases hv.guarded hm with hw | hf
    · have hany := h.isSome_whereClause
      rw [Option.isSome_iff_ne_none.mpr hw] at hany
      exact .inl (List.any_eq_true.mp hany.symm)
    · rw [h.force_eq] at hf
      cases hl : ts.findSomeRev? Transition.force? with
      | none => rw [hl] at hf; cases hf
      | some allowed => rw [hl] at hf; exact .inr (congrArg some hf)
  · intro hu
    obtain ⟨assigned, hs⟩ := hv.assignments hu
    rw [h.setClause_eq] at hs
    obtain ⟨data, hd, -⟩ := Option.map_eq_some_iff.mp hs
    exact ⟨data, exists_set_of_findSomeRev? hd⟩

/-- The predicate stands in the text as it is. -/
theorem exists_sql_eq_where {predicate : String} (hp : q.descriptor.whereClause = some predicate) :
    ∃ front rest, q.sql = front ++ " WHERE " ++ predicate ++ rest := by
  obtain ⟨front, back, -, hcompile⟩ := Descriptor.exists_compile_eq_where hp
  exact ⟨_, _, congrArg Statement.sql hcompile⟩

/-! ## What an operation does with it -/

/-- An operation on `q` that began in `before` keeps the guard: what it asks a
client to prepare is permitted, and shows the predicate unless it is forced;
what is not permitted it refuses, with no call to any client. -/
structure KeepsGuard (ts : List Transition) (q : Query κ) (before : σ) (o : Outcome κ σ α) :
    Prop where
  prepared {client : κ} {sql : String} (hp : .called client (.prepare sql) ∈ o.events) :
    (((∃ t ∈ ts, t.setsPredicate = true) ∧
          ∃ predicate front rest, q.descriptor.whereClause = some predicate ∧
            sql = front ++ " WHERE " ++ predicate ++ rest) ∨
        ts.findSomeRev? Transition.force? = some true) ∧
      (q.descriptor.effectiveMode = some .update → ∃ data, Transition.set data ∈ ts)
  refused (hn : ¬ Permitted ts q.descriptor.effectiveMode) :
    (∃ v, o.result = .error (.invalid v)) ∧
      (∀ client call, .called client call ∉ o.events) ∧ o.state = before

theorem KeepsGuard.andThen {before : σ} {o : Outcome κ σ α} (h : KeepsGuard ts q before o)
    (f : α → Except Error β) : KeepsGuard ts q before (o.andThen f) := by
  refine ⟨h.prepared, fun hn => ?_⟩
  obtain ⟨⟨v, hr⟩, hcalls, hstate⟩ := h.refused hn
  exact ⟨⟨v, Outcome.result_andThen_of_error hr f⟩, hcalls, hstate⟩

theorem execute_keepsGuard (h : Reachable ts q)
    (hm : q.descriptor.effectiveMode = some .update ∨ q.descriptor.effectiveMode = some .delete)
    (b : Backend κ σ) (fallback : Option κ) (r : Request) (state : σ) :
    KeepsGuard ts q state (q.execute b fallback r state) := by
  cases hv : q.violation? with
  | some v =>
      rw [execute_of_violation hv]
      exact ⟨fun hp => by simp at hp, fun _ => ⟨⟨v, rfl⟩, by simp, rfl⟩⟩
  | none =>
      have hpermitted := permitted_of_isValid h hv hm
      rw [execute_of_isValid hv]
      refine ⟨fun hp => ⟨?_, hpermitted.assigned⟩, fun hn => absurd hpermitted hn⟩
      rcases hpermitted.guarded with hset | hforced
      · have hsome := h.isSome_whereClause
        rw [List.any_eq_true.mpr hset] at hsome
        obtain ⟨predicate, hw⟩ := Option.isSome_iff_exists.mp hsome
        obtain ⟨front, rest, hsql⟩ := exists_sql_eq_where hw
        obtain ⟨suffix, hsent⟩ := q.exists_sql_statementFor r
        refine .inl ⟨hset, predicate, front, rest ++ suffix, hw, ?_⟩
        rw [sql_eq_of_mem_perform hp, hsent, hsql]
        simp only [String.append_assoc]
      · exact .inr hforced

/-- No chain of calls, no client and no default makes `all`, `first` or `run`
send an UPDATE or DELETE that the chain does not permit. -/
theorem change_keepsGuard (h : Reachable ts q)
    (hm : q.descriptor.effectiveMode = some .update ∨ q.descriptor.effectiveMode = some .delete)
    (b : Backend κ σ) (fallback : Option κ) (read : RowReader α) (state : σ) :
    KeepsGuard ts q state (q.all b fallback read state) ∧
      KeepsGuard ts q state (q.first b fallback read state) ∧
      KeepsGuard ts q state (q.run b fallback state) :=
  ⟨(execute_keepsGuard h hm b fallback .all state).andThen _,
    (execute_keepsGuard h hm b fallback .first state).andThen _,
    execute_keepsGuard h hm b fallback .run state⟩

/-- A DELETE that was forced at first and is not any more: the calls that name
another table and another kind of statement do not stand in for a predicate. -/
theorem change_keepsGuard_delete :
    let ts : List Transition :=
      [.deleteFrom "sessions", .force true, .update "users",
        .set (.ofPairs [("name", .text "x")]), .fromTable "logs", .limit 1, .force false, .copy]
    let root : Query Script := ofOptions { database := some { name := "own" } }
    ∃ q, root.chain ts = .ok q ∧ q.descriptor.effectiveMode = some .delete ∧
      (∃ v, (q.run Script.backend (some { name := "default" }) ()).result = .error (.invalid v)) ∧
      ∀ client call,
        .called client call ∉ (q.run Script.backend (some { name := "default" }) ()).events := by
  intro ts root
  obtain ⟨q, hq, hm⟩ :
      ∃ q, root.chain ts = .ok q ∧ q.descriptor.effectiveMode = some .delete := ⟨_, rfl, rfl⟩
  have hany : ts.any Transition.setsPredicate = false := rfl
  have hforce : ts.findSomeRev? Transition.force? = some false := rfl
  have hn : ¬ Permitted ts q.descriptor.effectiveMode := by
    intro hp
    rcases hp.guarded with hset | hforced
    · rw [List.any_eq_true.mpr hset] at hany
      cases hany
    · rw [hforce] at hforced
      cases hforced
  obtain ⟨-, -, hrun⟩ := change_keepsGuard (reachable_iff.mpr ⟨_, hq⟩) (.inr hm) Script.backend
    (some { name := "default" }) (fun row => .ok row) ()
  obtain ⟨hv, hcalls, -⟩ := hrun.refused hn
  exact ⟨q, hq, hm, hv, hcalls⟩

end Query

end SqlChain
