import SqlChain.Proofs.Records

/-!
# The joins of a query

A query has at most one join of each kind. A second one of a kind takes the place of the
first, with its own table; it does not go to the end. So the kinds stand in the order in
which they were first asked for, each with the table that was asked for last, whatever
was called in between and however often.

In a SELECT the joins stand right behind the table, and behind them the one condition that
was given last. It belongs to no join in particular.
-/

namespace SqlChain

/-! ## The place of a key -/

namespace Keyed

variable {κ ν : Type} [DecidableEq κ]

/-- The keys stand in the order of their first writings. -/
theorem pairwise_keys_ofList (pairs : List (κ × ν)) :
    (keys (ofList pairs)).Pairwise fun j k =>
      (pairs.map Prod.fst).idxOf j < (pairs.map Prod.fst).idxOf k := by
  -- On the end of the list: behind the keys so far, a new key has the highest index.
  induction pairs using List.reverseRecOn with
  | nil => exact List.Pairwise.nil
  | append_singleton pairs p ih =>
      have hmem : ∀ k ∈ keys (ofList pairs), k ∈ pairs.map Prod.fst := by
        intro k hk
        rwa [keys_ofList, List.mem_eraseDups] at hk
      have hold : (keys (ofList pairs)).Pairwise fun j k =>
          ((pairs ++ [p]).map Prod.fst).idxOf j < ((pairs ++ [p]).map Prod.fst).idxOf k := by
        refine ih.imp_of_mem fun hj hk hlt => ?_
        rw [List.map_append, List.idxOf_append_of_mem (hmem _ hj),
          List.idxOf_append_of_mem (hmem _ hk)]
        exact hlt
      rw [ofList_concat]
      by_cases hp : p.1 ∈ keys (ofList pairs)
      · rw [keys_put_of_mem p.2 hp]
        exact hold
      · have hkeys : keys (ofList pairs ++ [(p.1, p.2)]) = keys (ofList pairs) ++ [p.1] :=
          List.map_append
        rw [put_of_not_mem p.2 hp, hkeys, List.pairwise_append]
        refine ⟨hold, List.pairwise_singleton _ _, ?_⟩
        intro j hj k hk
        cases List.mem_singleton.mp hk
        have hfresh : p.1 ∉ pairs.map Prod.fst := by
          rwa [keys_ofList, List.mem_eraseDups] at hp
        have hlt : (pairs.map Prod.fst).idxOf j < (pairs.map Prod.fst).length :=
          List.idxOf_lt_length_iff.mpr (hmem j hj)
        rw [List.map_append, List.idxOf_append_of_mem (hmem j hj),
          List.idxOf_append_of_notMem hfresh]
        omega

end Keyed

namespace Query

variable {κ : Type} {ts : List Transition} {q : Query κ}

/-- The kinds of the joins that are called for, in the order of the calls. -/
def joinKinds (ts : List Transition) : List JoinKind :=
  (ts.filterMap Transition.join?).map Prod.fst

/-- Among the calls, the last join of a kind is that with a table. -/
theorem lastWritten_joins_iff {kind : JoinKind} {table : String} :
    Keyed.LastWritten (ts.filterMap Transition.join?) kind table ↔
      ∃ before after, ts = before ++ .join kind table :: after ∧
        ∀ other, .join kind other ∉ after := by
  have hjoin : ∀ {t : Transition} {j : JoinKind × String},
      t.join? = some j ↔ t = .join j.1 j.2 := by
    intro t j
    cases t <;> simp [Transition.join?, Prod.ext_iff]
  have hkeys : ∀ {after : List Transition},
      kind ∉ Keyed.keys (after.filterMap Transition.join?) ↔ ∀ other, .join kind other ∉ after := by
    intro after
    simp [Keyed.keys, hjoin]
  constructor
  · rintro ⟨front, back, heq, hback⟩
    obtain ⟨before, rest, rfl, rfl, hrest⟩ := List.filterMap_eq_append_iff.mp heq
    obtain ⟨silent, t, after, rfl, hsilent, ht, rfl⟩ := List.filterMap_eq_cons_iff.mp hrest
    cases hjoin.mp ht
    exact ⟨before ++ silent, after, by simp, hkeys.mp hback⟩
  · rintro ⟨before, after, rfl, hafter⟩
    exact ⟨before.filterMap Transition.join?, after.filterMap Transition.join?,
      by simp [Transition.join?], hkeys.mpr hafter⟩

theorem Reachable.sql_of_select (h : Reachable ts q)
    (hm : q.descriptor.effectiveMode = some .select) :
    q.sql = "SELECT " ++ q.descriptor.selection ++ " FROM " ++ q.descriptor.tableText ++
      String.join (q.descriptor.joins.map fun j => " " ++ j.1.text ++ " JOIN " ++ j.2) ++
      ((ts.findSomeRev? Transition.on?).map (" ON " ++ ·)).getD "" ++
      (Statement.ofClauses q.descriptor.tail).sql := by
  have hhead : q.descriptor.head = q.descriptor.selectHead := by rw [Descriptor.head, hm]
  have hon : q.descriptor.onText =
      ((ts.findSomeRev? Transition.on?).map (" ON " ++ ·)).getD "" := by
    rw [Descriptor.onText, h.onClause_eq]
    cases ts.findSomeRev? Transition.on? <;> rfl
  show (Statement.ofClauses (q.descriptor.head :: q.descriptor.tail)).sql = _
  rw [Statement.sql_ofClauses_cons, hhead, Descriptor.text_selectHead, hon]
  rfl

/-- Whatever else is called, the joins of a query are of the kinds that were called for,
each once, in the order of the first calls, and each with the table of the last call. A
SELECT names them in this order right behind its table, and then the condition that was
given last, if one was. -/
theorem joins_recorded (h : Reachable ts q) :
    (Keyed.keys q.descriptor.joins).Nodup ∧
      (∀ kind, kind ∈ Keyed.keys q.descriptor.joins ↔ kind ∈ joinKinds ts) ∧
      ((Keyed.keys q.descriptor.joins).Pairwise fun j k =>
        (joinKinds ts).idxOf j < (joinKinds ts).idxOf k) ∧
      (∀ kind table, (kind, table) ∈ q.descriptor.joins ↔
        ∃ before after, ts = before ++ .join kind table :: after ∧
          ∀ other, .join kind other ∉ after) ∧
      (q.descriptor.effectiveMode = some .select →
        q.sql = "SELECT " ++ q.descriptor.selection ++ " FROM " ++ q.descriptor.tableText ++
          String.join (q.descriptor.joins.map fun j => " " ++ j.1.text ++ " JOIN " ++ j.2) ++
          ((ts.findSomeRev? Transition.on?).map (" ON " ++ ·)).getD "" ++
          (Statement.ofClauses q.descriptor.tail).sql) ∧
      ∀ kind table, ∃ r, q.apply (.join kind table) = .ok r := by
  refine ⟨?nodup, ?kinds, ?order, ?tables, h.sql_of_select, fun kind table => ⟨_, rfl⟩⟩
  all_goals rw [h.joins_eq]
  case nodup => exact Keyed.nodup_keys_ofList _
  case kinds =>
    intro kind
    rw [Keyed.keys_ofList, List.mem_eraseDups, joinKinds]
  case order => exact Keyed.pairwise_keys_ofList _
  case tables =>
    intro kind table
    rw [Keyed.mem_ofList_iff, lastWritten_joins_iff]

/-- The second LEFT JOIN keeps the place of the first, and the third condition takes that
of the second. -/
theorem joins_recorded_posts :
    let ts : List Transition :=
      [.join .left "users", .onRaw "a = b", .fromTable "posts", .join .outer "tags", .limit 5,
        .on "posts.id" (.spelled "==") "tags.post", .join .left "admins",
        .on "posts.author" (.spelled "is") "admins.id"]
    ∃ q : Query Unit, new.chain ts = .ok q ∧
      (.left, "admins") ∈ q.descriptor.joins ∧ (.left, "users") ∉ q.descriptor.joins ∧
      q.sql = "SELECT * FROM posts LEFT JOIN admins FULL OUTER JOIN tags" ++
        " ON posts.author IS admins.id LIMIT ?" := by
  intro ts
  obtain ⟨q, hq, hm⟩ : ∃ q : Query Unit, new.chain ts = .ok q ∧
      q.descriptor.effectiveMode = some .select := ⟨_, rfl, rfl⟩
  obtain ⟨hnodup, -, -, htables, hsql, -⟩ := joins_recorded (reachable_iff.mpr ⟨_, hq⟩)
  have hlast : (.left, "admins") ∈ q.descriptor.joins :=
    (htables .left "admins").mpr ⟨ts.take 6, ts.drop 7, rfl, by simp [ts]⟩
  refine ⟨q, hq, hlast, ?_, ?_⟩
  · intro hfirst
    exact absurd (List.inj_on_of_nodup_map hnodup hlast hfirst rfl) (by decide)
  · rw [hsql hm]
    cases hq
    decide

end Query

end SqlChain
