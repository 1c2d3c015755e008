import SqlChain.Proofs.Verdict

/-!
# Calls that are about another kind of statement

A chain may say `update` where it is already a DELETE. Such a call is not refused,
it writes to the descriptor, and a statement that went to another table for it would
be a bad surprise. This file shows that there is none: once the kind of a statement
is settled, calls about other kinds change neither its text nor its parameters.

Most calls have a home, the kind of statement they are about, and write only to the
fields of their home. Neither the compiler nor the later checks look at the fields of
a kind that the statement is not of, so forgetting them changes nothing. The one
exception is the first check, which looks for columns beside a count in statements of
every kind; foreign calls may set it off, and never appease it.
-/

namespace SqlChain

/-! ## Where a call is at home -/

namespace Transition

/-- The kind of statement that the call is about. The calls about predicates, sorting
and the like are about any kind. -/
def home? : Transition → Option Mode
  | .select _ | .count _ | .fromTable _ | .join _ _ | .on _ _ _ | .onRaw _ => some .select
  | .insertInto _ _ => some .insert
  | .update _ | .set _ => some .update
  | .deleteFrom _ => some .delete
  | _ => none

/-- The call is about a kind of statement other than `m`. -/
def Foreign (m : Mode) (t : Transition) : Prop := ∃ k, t.home? = some k ∧ k ≠ m

/-- The operator of the call, if it has one, is known. -/
def Resolves : Transition → Prop
  | .on _ operator _ => ∃ o, operator.resolve = .ok o
  | .filter condition | .extend _ condition => ∃ c, condition.resolve = .ok c
  | _ => True

end Transition

namespace Descriptor

/-- The descriptor without what calls about statements of a kind have written. -/
def forget : Mode → Descriptor → Descriptor
  | .select, d =>
      { d with
        fromTable := none, selectColumns := none, count := none, joins := [], onClause := none }
  | .insert, d => { d with insertTable := none, insertColumns := [], insertParameters := [] }
  | .update, d => { d with updateTable := none, setClause := none, setParameters := [] }
  | .delete, d => { d with deleteTable := none }

variable {d e : Descriptor} {t : Transition} {m k : Mode}

/-- A kind that is settled stays. -/
theorem Becomes.mode_of_settled (ht : d.Becomes t e) (hm : d.mode = some m) :
    e.mode = some m := by
  rw [ht.mode_eq, hm]
  rfl

/-- A call writes only to the fields of its home. -/
theorem Becomes.forget_eq (ht : d.Becomes t e) (hm : d.mode = some m)
    (hk : t.home? = some k) : e.forget k = d.forget k := by
  obtain ⟨mode⟩ := d
  cases hm
  cases ht <;> cases hk <;> rfl

/-- A call with a home goes well unless its operator is unknown. -/
theorem exists_becomes_iff (hk : t.home? = some k) : (∃ e, d.Becomes t e) ↔ t.Resolves := by
  cases t
  case on left operator right =>
    constructor
    · rintro ⟨e, ht⟩
      cases ht
      case on o ho => exact ⟨o, ho⟩
    · rintro ⟨o, ho⟩
      exact ⟨_, .on left right ho⟩
  case select | count | fromTable | join | onRaw | insertInto | update | set | deleteFrom =>
    exact ⟨fun _ => trivial, fun _ => ⟨_, by constructor⟩⟩
  all_goals cases hk

/-! ## What nobody looks at -/

/-- The first violation apart from that of the first check. -/
def laterViolation? (d : Descriptor) : Option Violation :=
  d.checkAssignments.or (d.checkGuard.or (d.checkPlaceholders.or
    (d.checkSubject.or d.checkInline)))

theorem violation?_eq_checkSelection_or (d : Descriptor) :
    d.violation? = d.checkSelection.or d.laterViolation? := violation?_eq_or d

/-- The compiler does not look at the fields of another kind. -/
theorem compile_forget (hm : d.mode = some m) (hk : k ≠ m) :
    (d.forget k).compile = d.compile := by
  obtain ⟨mode⟩ := d
  cases hm
  cases m <;> cases k <;> first | exact absurd rfl hk | rfl

/-- Nor do the checks after the first. -/
theorem laterViolation?_forget (hm : d.mode = some m) (hk : k ≠ m) :
    (d.forget k).laterViolation? = d.laterViolation? := by
  obtain ⟨mode⟩ := d
  cases hm
  cases m <;> cases k <;> first | exact absurd rfl hk | rfl

/-- The first check looks at the fields of a SELECT only. -/
theorem checkSelection_forget (hk : k ≠ .select) :
    (d.forget k).checkSelection = d.checkSelection := by
  cases k <;> first | exact absurd rfl hk | rfl

theorem isSome_checkSelection (d : Descriptor) :
    d.checkSelection.isSome = (d.selectColumns.isSome && d.count.isSome) := by
  rw [checkSelection]
  cases d.selectColumns <;> cases d.count <;> rfl

/-- Columns and counts are replaced and never taken back. -/
theorem Becomes.isSome_checkSelection_mono (ht : d.Becomes t e)
    (hd : d.checkSelection.isSome = true) : e.checkSelection.isSome = true := by
  rw [isSome_checkSelection, Bool.and_eq_true] at hd ⊢
  cases ht
  case select => exact ⟨rfl, hd.2⟩
  case count => exact ⟨hd.1, rfl⟩
  all_goals exact hd

/-! ## A foreign call, and a chain of them -/

/-- What a foreign call leaves of a statement of kind `m`: all that is sent, and all
that is said of it unless the first check speaks up. -/
structure Keeps (m : Mode) (d e : Descriptor) : Prop where
  mode_eq : e.mode = some m
  compile_eq : e.compile = d.compile
  laterViolation?_eq : e.laterViolation? = d.laterViolation?
  selection_eq : m = .select → e.checkSelection = d.checkSelection
  selection_mono : d.checkSelection.isSome = true → e.checkSelection.isSome = true

theorem Keeps.refl (hm : d.mode = some m) : Keeps m d d := ⟨hm, rfl, rfl, fun _ => rfl, id⟩

theorem Keeps.trans {f : Descriptor} (hde : Keeps m d e) (hef : Keeps m e f) : Keeps m d f where
  mode_eq := hef.mode_eq
  compile_eq := hef.compile_eq.trans hde.compile_eq
  laterViolation?_eq := hef.laterViolation?_eq.trans hde.laterViolation?_eq
  selection_eq hs := (hef.selection_eq hs).trans (hde.selection_eq hs)
  selection_mono := hef.selection_mono ∘ hde.selection_mono

theorem Becomes.keeps (ht : d.Becomes t e) (hm : d.mode = some m) (hf : t.Foreign m) :
    Keeps m d e := by
  obtain ⟨k, hk, hne⟩ := hf
  have he : e.mode = some m := ht.mode_of_settled hm
  have hforget : e.forget k = d.forget k := ht.forget_eq hm hk
  refine ⟨he, ?_, ?_, ?_, ht.isSome_checkSelection_mono⟩
  · rw [← compile_forget he hne, hforget, compile_forget hm hne]
  · rw [← laterViolation?_forget he hne, hforget, laterViolation?_forget hm hne]
  · rintro rfl
    rw [← checkSelection_forget hne, hforget, checkSelection_forget hne]

theorem exists_selectAndCount {violation : Violation}
    (h : d.checkSelection = some violation) :
    ∃ columns expression, violation = .selectAndCount columns expression := by
  rw [checkSelection] at h
  split at h
  · next columns expression _ _ =>
      cases h
      exact ⟨columns, expression, rfl⟩
  · cases h

/-- The verdict can only turn into that of the first check. -/
theorem Keeps.violation?_eq (h : Keeps m d e) :
    e.violation? = d.violation? ∨
      m ≠ .select ∧
        ∃ columns expression, e.violation? = some (.selectAndCount columns expression) := by
  rw [violation?_eq_checkSelection_or, violation?_eq_checkSelection_or, h.laterViolation?_eq]
  by_cases hs : m = .select
  · exact .inl (by rw [h.selection_eq hs])
  · cases he : e.checkSelection with
    | some violation =>
        obtain ⟨columns, expression, hv⟩ := exists_selectAndCount he
        exact .inr ⟨hs, columns, expression, congrArg some hv⟩
    | none =>
        have hd : d.checkSelection = none := by
          cases hd : d.checkSelection with
          | none => rfl
          | some violation =>
              have hsome := h.selection_mono (by rw [hd]; rfl)
              rw [he] at hsome
              cases hsome
        exact .inl (by rw [hd])

/-! ## What a statement starts with -/

/-- The words of the head up to the table. -/
def opening : Mode → Descriptor → String
  | .select, d => "SELECT " ++ d.selection ++ " FROM "
  | .insert, _ => "INSERT INTO "
  | .update, _ => "UPDATE "
  | .delete, _ => "DELETE FROM "

/-- A statement whose kind is settled names its table after the opening words. -/
theorem exists_sql_eq (hm : d.mode = some m) :
    ∃ rest, d.compile.sql = d.opening m ++ d.tableText ++ rest := by
  have hmode : d.effectiveMode = some m := by rw [effectiveMode, hm]; rfl
  obtain ⟨rest, hrest⟩ : ∃ rest, d.head.text = d.opening m ++ d.tableText ++ rest := by
    rw [head, hmode]
    cases m
    case select => exact ⟨d.joinsText ++ d.onText, String.append_assoc⟩
    case insert =>
      refine ⟨" (" ++ Text.listing d.insertColumns ++ ") VALUES (" ++
        Text.placeholderList d.insertColumns.length ++ ")", ?_⟩
      simp only [text_insertHead, opening, String.append_assoc]
    case update =>
      simp only [updateHead]
      split
      · next assignments _ => exact ⟨" SET " ++ assignments, String.append_assoc⟩
      · exact ⟨"", String.append_empty.symm⟩
    case delete => exact ⟨"", String.append_empty.symm⟩
  refine ⟨rest ++ (Statement.ofClauses d.tail).sql, ?_⟩
  rw [compile, clauses, Statement.sql_ofClauses_cons, hrest, String.append_assoc]

end Descriptor

namespace Query

open Transition

variable {κ : Type} {ts s : List Transition} {q r : Query κ} {m : Mode}

/-- What makes an INSERT, an UPDATE or a DELETE of a chain names a table. -/
theorem isSome_lastTable (hf : firstMode ts = some m) (hm : m ≠ .select)
    (options : Options κ) : (lastTable m options ts).isSome = true := by
  obtain ⟨t, ht, hclaims⟩ := List.exists_of_findSome?_eq_some hf
  have htable : (t.table? m).isSome = true := isSome_table?_of_claims hclaims hm
  rw [lastTable, Option.isSome_or, List.findSomeRev?_eq_findSome?_reverse,
    List.isSome_findSome?, Bool.or_eq_true]
  exact .inl (List.any_eq_true.mpr ⟨t, List.mem_reverse.mpr ht, htable⟩)

theorem chain_keeps (hm : q.descriptor.mode = some m) (hs : ∀ t ∈ s, t.Foreign m)
    (hr : q.chain s = .ok r) : q.descriptor.Keeps m r.descriptor := by
  refine chain_induct (P := q.descriptor.Keeps m) (.refl hm) ?_ hr
  intro t ht d e hd hbecomes
  exact hd.trans (hbecomes.keeps hd.mode_eq (hs t ht))

/-- A chain of foreign calls comes to an end unless an operator is unknown. -/
theorem exists_chain_iff (hs : ∀ t ∈ s, t.Foreign m) :
    (∃ r, q.chain s = .ok r) ↔ ∀ t ∈ s, t.Resolves := by
  induction s generalizing q with
  | nil => exact ⟨fun _ t ht => absurd ht List.not_mem_nil, fun _ => ⟨q, rfl⟩⟩
  | cons t s ih =>
      obtain ⟨k, hk, -⟩ := hs t List.mem_cons_self
      have hrest : ∀ t ∈ s, t.Foreign m := fun t ht => hs t (List.mem_cons_of_mem _ ht)
      simp only [List.forall_mem_cons, chain_cons_eq_ok_iff]
      rw [← Descriptor.exists_becomes_iff (d := q.descriptor) hk]
      constructor
      · rintro ⟨r, p, hp, hr⟩
        exact ⟨⟨p.descriptor, (apply_eq_ok_iff.mp hp).1⟩, (ih hrest).mp ⟨r, hr⟩⟩
      · rintro ⟨⟨e, he⟩, hs⟩
        have hp : q.apply t = .ok ⟨e, q.options⟩ := apply_eq_ok_iff.mpr ⟨he, rfl⟩
        obtain ⟨r, hr⟩ := (ih (q := ⟨e, q.options⟩) hrest).mpr hs
        exact ⟨r, _, hp, hr⟩

/-- Once a statement is of kind `m`, calls about other kinds go well as far as their
operators are known, and do not change what is sent. They do not change the verdict
on a SELECT either, and that on another statement only to a conflict of columns and a
count. The table is the one that was given last for the statement's own kind, and it
stands right after the opening words. -/
theorem chain_foreign (h : Reachable ts q) (hm : q.descriptor.mode = some m)
    (hs : ∀ t ∈ s, t.Foreign m) :
    firstMode ts = some m ∧
      ((∃ r, q.chain s = .ok r) ↔ ∀ t ∈ s, t.Resolves) ∧
      (∀ r, q.chain s = .ok r →
        r.compile = q.compile ∧
          (r.violation? = q.violation? ∨
            m ≠ .select ∧ ∃ columns expression,
              r.violation? = some (.selectAndCount columns expression))) ∧
      q.descriptor.targetTable = lastTable m q.options ts ∧
      (m ≠ .select → (lastTable m q.options ts).isSome = true) ∧
      ∃ rest, q.sql = q.descriptor.opening m ++ q.descriptor.tableText ++ rest := by
  have hfirst : firstMode ts = some m := h.mode_eq.symm.trans hm
  have htable : q.descriptor.targetTable = lastTable m q.options ts := by
    rw [Descriptor.targetTable_of_mode hm, h.tableOf_eq]
  refine ⟨hfirst, exists_chain_iff hs, fun r hr => ?_, htable, fun hne => ?_, ?_⟩
  · have hkeeps := chain_keeps hm hs hr
    exact ⟨hkeeps.compile_eq, hkeeps.violation?_eq⟩
  · exact isSome_lastTable hfirst hne q.options
  · exact Descriptor.exists_sql_eq hm

/-- A DELETE that is talked to about everything else still deletes what it was told to
delete; that it does so is no longer said to be in order. -/
theorem chain_foreign_delete :
    let ts : List Transition :=
      [.fromTable "posts", .deleteFrom "users",
        .filter (.compare "id" (.spelled "=") (.integer 1))]
    let s : List Transition :=
      [.update "admins", .set (.ofPairs [("name", .text "x")]), .insertInto "logs" .empty,
        .select ["id"], .fromTable "comments", .join .left "tags",
        .on "a" (.spelled "=") "b", .count "*"]
    ∃ q r : Query Unit, new.chain ts = .ok q ∧ q.chain s = .ok r ∧
      r.sql = "DELETE FROM users WHERE id = ?" ∧ r.parameters = [.integer 1] ∧
      q.violation? = none ∧ r.violation? = some (.selectAndCount "id" "*") := by
  intro ts s
  obtain ⟨q, r, hq, hr, hm, hstatement, hq', hr'⟩ : ∃ q r : Query Unit,
      new.chain ts = .ok q ∧ q.chain s = .ok r ∧ q.descriptor.mode = some .delete ∧
      q.compile = ⟨"DELETE FROM users WHERE id = ?", [.integer 1]⟩ ∧
      q.violation? = none ∧ r.violation? = some (.selectAndCount "id" "*") :=
    ⟨_, _, rfl, rfl, rfl, by decide, by decide, by decide⟩
  have hs : ∀ t ∈ s, t.Foreign .delete := by simp [s, Foreign, home?]
  obtain ⟨-, -, hkept, -⟩ := chain_foreign (reachable_iff.mpr ⟨_, hq⟩) hm hs
  have hsame : r.compile = ⟨"DELETE FROM users WHERE id = ?", [.integer 1]⟩ :=
    (hkept r hr).1.trans hstatement
  refine ⟨q, r, hq, hr, ?_, ?_, hq', hr'⟩
  · rw [sql, hsame]
  · rw [parameters, hsame]

end Query

end SqlChain
