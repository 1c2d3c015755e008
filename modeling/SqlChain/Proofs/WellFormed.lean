import SqlChain.Proofs.Foreign

/-!
# What every call keeps of a descriptor

The compiler falls back to an empty table name, and writes out columns and
parameters without asking whether they belong together. Nothing comes of that: a
descriptor that calls have made is well-formed. A statement that changes rows has its
table, values come with the text that they belong to, and nothing that should be
there once is there twice.

A call is shown to keep all of it at once, by cases on the call, for any descriptor
that is well-formed and not only for one that has come out of calls. Two calls rely on
their data: the columns of a record are distinct, which a record says of itself.
-/

namespace SqlChain

namespace Descriptor

/-- What holds of a descriptor whatever was called. -/
structure WellFormed (d : Descriptor) : Prop where
  table : ∀ m, d.mode = some m → m ≠ .select → (d.tableOf m).isSome = true
  selection : d.selectColumns ≠ none ∨ d.count ≠ none → d.mode.isSome = true
  predicate : d.whereClause = none → d.whereParameters = []
  inserted_length : d.insertParameters.length = d.insertColumns.length
  inserted_nodup : d.insertColumns.Nodup
  assigned : ∀ text, d.setClause = some text →
    ∃ data : Record, data.columns.Nodup ∧
      text = Text.listing (data.columns.map fun column => column ++ " = ?") ∧
      d.setParameters = data.values
  unassigned : d.setClause = none → d.setParameters = []
  joins_nodup : (Keyed.keys d.joins).Nodup

variable {d e : Descriptor} {t : Transition}

theorem wellFormed_root {κ : Type} (options : Options κ) :
    (Query.ofOptions options).descriptor.WellFormed where
  table _ hm := by cases hm
  selection h := by
    rcases h with h | h <;> exact absurd rfl h
  predicate _ := rfl
  inserted_length := rfl
  inserted_nodup := List.nodup_nil
  assigned _ h := by cases h
  unassigned _ := rfl
  joins_nodup := List.nodup_nil

theorem Becomes.wellFormed (ht : d.Becomes t e) (hd : d.WellFormed) : e.WellFormed := by
  constructor
  case table =>
    intro m hm hne
    rw [ht.tableOf_eq, Option.isSome_or, Bool.or_eq_true]
    rw [ht.mode_eq, Option.or_eq_some_iff] at hm
    rcases hm with hm | ⟨-, hclaims⟩
    · exact .inr (hd.table m hm hne)
    · exact .inl (Transition.isSome_table?_of_claims hclaims hne)
  case selection =>
    intro h
    rw [ht.mode_eq, Option.isSome_or, Bool.or_eq_true]
    cases ht
    case select | count | insertInto | update | deleteFrom => exact .inr rfl
    all_goals exact .inl (hd.selection h)
  case predicate => exact ht.whereParameters_eq_nil hd.predicate
  case inserted_length => exact ht.length_insertParameters hd.inserted_length
  case inserted_nodup =>
    cases ht
    case insertInto data => exact data.distinct
    all_goals exact hd.inserted_nodup
  case assigned =>
    intro text htext
    cases ht
    case set data =>
      cases htext
      exact ⟨data, data.distinct, rfl, rfl⟩
    all_goals exact hd.assigned text htext
  case unassigned =>
    intro hn
    cases ht
    case set => cases hn
    all_goals exact hd.unassigned hn
  case joins_nodup =>
    cases ht
    case join kind table => exact Keyed.nodup_keys_put kind table hd.joins_nodup
    all_goals exact hd.joins_nodup

/-- A statement that passes the checks has a table: one that changes rows since its kind
was named, and a SELECT because the checks ask for it. -/
theorem WellFormed.exists_targetTable (hd : d.WellFormed) (hv : d.IsValid) :
    ∃ table, d.targetTable = some table := by
  obtain ⟨m, hm⟩ := hv.mode
  rw [targetTable_of_effectiveMode hm]
  by_cases hs : m = .select
  · rw [hs] at hm ⊢
    exact hv.source hm
  · refine Option.isSome_iff_exists.mp (hd.table m ?_ hs)
    rw [effectiveMode, Option.orElse_eq_orElse, Option.orElse_eq_or, Option.or_eq_some_iff] at hm
    rcases hm with hm | ⟨-, htable⟩
    · exact hm
    · obtain ⟨_, -, rfl⟩ := Option.map_eq_some_iff.mp htable
      exact absurd rfl hs

end Descriptor

namespace Query

variable {κ : Type} {ts : List Transition} {q r : Query κ}

theorem chain_wellFormed (hq : q.descriptor.WellFormed) (h : q.chain ts = .ok r) :
    r.descriptor.WellFormed ∧ r.descriptor.clauseStyle = q.descriptor.clauseStyle := by
  refine chain_induct
    (P := fun d => d.WellFormed ∧ d.clauseStyle = q.descriptor.clauseStyle) ⟨hq, rfl⟩ ?_ h
  rintro t - d e ⟨hd, hstyle⟩ hbecomes
  exact ⟨hbecomes.wellFormed hd, hbecomes.clauseStyle_eq.trans hstyle⟩

/-- Calls lead from a root to well-formed descriptors only, in the style of the root, and
to no valid query without a table. -/
theorem reachable_wellFormed {root : Query κ} (hroot : Reachable [] root)
    (h : root.chain ts = .ok q) :
    q.descriptor.WellFormed ∧
      q.descriptor.clauseStyle = root.descriptor.clauseStyle ∧
      (q.descriptor.IsValid → ∃ table, q.descriptor.targetTable = some table) := by
  have hwf : root.descriptor.WellFormed := by
    obtain ⟨options, ho⟩ := reachable_iff.mp hroot
    cases ho
    exact Descriptor.wellFormed_root options
  obtain ⟨hwellFormed, hstyle⟩ := chain_wellFormed hwf h
  exact ⟨hwellFormed, hstyle, hwellFormed.exists_targetTable⟩

/-- An UPDATE with columns and joins given twice, and the columns of two INSERTs of
which it makes nothing. -/
theorem reachable_wellFormed_update :
    let ts : List Transition :=
      [.update "users",
        .set (.ofPairs [("name", .text "x"), ("age", .integer 7), ("name", .text "y")]),
        .insertInto "logs" (.ofMembers [("at", .int 1), ("at", .int 2)]),
        .join .left "posts", .join .inner "tags", .join .left "comments",
        .filter (.compare "id" (.spelled "=") (.integer 1)),
        .insertInto "notes" (.ofSorted [("b", .integer 1), ("a", .integer 2), ("b", .null)])]
    let root : Query Unit := ofOptions { clauseStyle := .inline }
    ∃ q, root.chain ts = .ok q ∧ q.descriptor.WellFormed ∧
      q.descriptor.clauseStyle = .inline ∧
      q.descriptor.setClause = some "name = ?, age = ?" ∧
      q.descriptor.joins = [(.left, "comments"), (.inner, "tags")] ∧
      ∃ table, q.descriptor.targetTable = some table := by
  intro ts root
  obtain ⟨q, hq, hvalid, hset, hjoins⟩ : ∃ q, root.chain ts = .ok q ∧ q.descriptor.IsValid ∧
      q.descriptor.setClause = some "name = ?, age = ?" ∧
      q.descriptor.joins = [(.left, "comments"), (.inner, "tags")] :=
    ⟨_, rfl, by decide, by decide, by decide⟩
  obtain ⟨hwellFormed, hstyle, htable⟩ := reachable_wellFormed (.ofOptions _) hq
  exact ⟨q, hq, hwellFormed, hstyle, hset, hjoins, htable hvalid⟩

end Query

end SqlChain
