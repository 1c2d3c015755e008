import SqlChain.Proofs.Foreign

/-!
# Calls of different groups may change places

A chain is written in some order, and most of that order means nothing: a limit may be
set before the predicate or after it. The calls fall into groups, by the fields that
they read and write, and only the order within a group counts. That the fields are
parted so is one equation, `apply_adopt`: a call sees of a descriptor no more than the
fields of its group, and writes no others.

From it follows that two calls of different groups may change places, whether they go
well or fail, and from that, by moving one call after another to its place, that a
chain may be rearranged. A chain of known operators fails in one way only, at an `and`
or an `or` that no predicate comes before; the calls about the predicate are one
group, so a rearranged chain fails at the same one.
-/

namespace SqlChain

/-! ## The groups -/

/-- The groups of calls. A copy, which says nothing, has a group of its own. -/
inductive Group where
  | kind
  | source
  | predicate
  | joins
  | on
  | assignments
  | groupBy
  | having
  | orderBy
  | limit
  | offset
  | force
  | copies
deriving DecidableEq, Repr

/-- The group of a call. The calls that name a kind of statement are one group, for the
first of them settles it. -/
def Transition.group : Transition → Group
  | .select _ | .count _ | .insertInto _ _ | .update _ | .deleteFrom _ => .kind
  | .fromTable _ => .source
  | .filter _ | .filterRaw _ | .extend _ _ => .predicate
  | .join _ _ => .joins
  | .on _ _ _ | .onRaw _ => .on
  | .set _ => .assignments
  | .groupBy _ => .groupBy
  | .having _ => .having
  | .orderBy _ => .orderBy
  | .limit _ => .limit
  | .offset _ => .offset
  | .force _ => .force
  | .copy => .copies

namespace Descriptor

/-- `d`, with the fields of a group as they are in `e`. -/
def adopt : Group → Descriptor → Descriptor → Descriptor
  | .kind, d, e =>
      { d with
        mode := e.mode
        insertTable := e.insertTable
        updateTable := e.updateTable
        deleteTable := e.deleteTable
        selectColumns := e.selectColumns
        count := e.count
        insertColumns := e.insertColumns
        insertParameters := e.insertParameters }
  | .source, d, e => { d with fromTable := e.fromTable }
  | .predicate, d, e =>
      { d with whereClause := e.whereClause, whereParameters := e.whereParameters }
  | .joins, d, e => { d with joins := e.joins }
  | .on, d, e => { d with onClause := e.onClause }
  | .assignments, d, e =>
      { d with setClause := e.setClause, setParameters := e.setParameters }
  | .groupBy, d, e => { d with groupBy := e.groupBy }
  | .having, d, e => { d with having := e.having }
  | .orderBy, d, e => { d with orderBy := e.orderBy }
  | .limit, d, e => { d with limit := e.limit }
  | .offset, d, e => { d with offset := e.offset }
  | .force, d, e => { d with force := e.force }
  | .copies, d, _ => d

variable {d e a b : Descriptor} {t u : Transition} {g k : Group}

theorem adopt_self (g : Group) (d : Descriptor) : d.adopt g d = d := by
  cases g <;> rfl

/-- No field belongs to two groups. -/
theorem adopt_comm (h : g ≠ k) (d a b : Descriptor) :
    (d.adopt g a).adopt k b = (d.adopt k b).adopt g a := by
  cases g <;> cases k <;> first | exact absurd rfl h | rfl

/-! ## A call sees its group only -/

/-- What a call does to a descriptor is what it does to the fields of its group,
wherever they come from. -/
theorem apply_adopt (d e : Descriptor) (t : Transition) :
    (d.adopt t.group e).apply t = (e.apply t).map (d.adopt t.group) := by
  cases t
  case on left operator right =>
    simp only [apply]
    cases operator.resolve <;> rfl
  case filter condition =>
    simp only [apply]
    cases condition.resolve <;> rfl
  case extend connective condition =>
    have hw : (d.adopt .predicate e).whereClause = e.whereClause := rfl
    simp only [apply, Transition.group, hw]
    cases e.whereClause with
    | none => rfl
    | some predicate => cases condition.resolve <;> rfl
  all_goals rfl

theorem eq_adopt_of_apply (ht : d.apply t = .ok a) : a = d.adopt t.group a := by
  have h := apply_adopt d d t
  rw [adopt_self, ht] at h
  exact Except.ok.inj h

/-- A call leaves the fields of the other groups alone. -/
theorem adopt_of_apply (ht : d.apply t = .ok a) (h : t.group ≠ k) : a.adopt k d = a := by
  rw [eq_adopt_of_apply ht, adopt_comm h, adopt_self]

/-- So a call does after one of another group what it would have done before it. -/
theorem apply_of_apply (ht : d.apply t = .ok a) (h : t.group ≠ u.group) :
    a.apply u = (d.apply u).map (a.adopt u.group) := by
  have hcalls := apply_adopt a d u
  rw [adopt_of_apply ht h] at hcalls
  exact hcalls

/-! ## Two calls -/

/-- With known operators, one call can fail, and only where there is no predicate. -/
theorem apply_eq_error_iff (hr : t.Resolves) {error : ChainError} :
    d.apply t = .error error ↔
      ∃ connective condition, t = .extend connective condition ∧ d.whereClause = none ∧
        error = .misuse (.connectiveBeforeWhere connective) := by
  constructor
  · intro h
    cases t
    case on left operator right =>
      obtain ⟨o, ho⟩ := hr
      simp only [apply, ho] at h
      cases h
    case filter condition =>
      obtain ⟨c, hc⟩ := hr
      simp only [apply, hc] at h
      cases h
    case extend connective condition =>
      obtain ⟨c, hc⟩ := hr
      cases hw : d.whereClause with
      | none =>
          simp only [apply, hw] at h
          exact ⟨connective, condition, rfl, rfl, (Except.error.inj h).symm⟩
      | some predicate =>
          simp only [apply, hw, hc] at h
          cases h
    all_goals cases h
  · rintro ⟨connective, condition, rfl, hw, rfl⟩
    simp only [apply, hw]

/-- Two calls of different groups may change places. -/
theorem apply_apply_comm (ht : t.Resolves) (hu : u.Resolves) (h : t.group ≠ u.group)
    (d : Descriptor) : (d.apply t >>= (apply · u)) = d.apply u >>= (apply · t) := by
  cases hat : d.apply t with
  | ok a =>
      have hau : a.apply u = (d.apply u).map (a.adopt u.group) := apply_of_apply hat h
      show a.apply u = _
      rw [hau]
      cases hbu : d.apply u with
      | error error => rfl
      | ok b =>
          have hbt : b.apply t = (d.apply t).map (b.adopt t.group) := apply_of_apply hbu h.symm
          show Except.ok (a.adopt u.group b) = b.apply t
          -- Both are `d` with the one group of `a` and the other of `b`.
          rw [hbt, hat, eq_adopt_of_apply hat, adopt_comm h, ← eq_adopt_of_apply hbu,
            ← eq_adopt_of_apply hat]
          rfl
  | error error =>
      cases hbu : d.apply u with
      | ok b =>
          have hbt : b.apply t = (d.apply t).map (b.adopt t.group) := apply_of_apply hbu h.symm
          show Except.error error = b.apply t
          rw [hbt, hat]
          rfl
      | error error' =>
          -- Both extend a predicate that is not there, so they are of one group.
          obtain ⟨_, _, rfl, -, -⟩ := (apply_eq_error_iff ht).mp hat
          obtain ⟨_, _, rfl, -, -⟩ := (apply_eq_error_iff hu).mp hbu
          exact absurd rfl h

end Descriptor

/-! ## A chain -/

namespace Query

variable {κ : Type} {t u : Transition} {ts us : List Transition}

theorem apply_apply_comm (ht : t.Resolves) (hu : u.Resolves) (h : t.group ≠ u.group)
    (q : Query κ) : (q.apply t >>= (apply · u)) = q.apply u >>= (apply · t) := by
  have hmap (t u : Transition) : (q.apply t >>= (apply · u)) =
      (q.descriptor.apply t >>= (Descriptor.apply · u)).map fun d => { q with descriptor := d } := by
    rw [apply]
    cases q.descriptor.apply t <;> rfl
  rw [hmap, hmap, Descriptor.apply_apply_comm ht hu h]

theorem chain_swap (ht : t.Resolves) (hu : u.Resolves) (h : t.group ≠ u.group) (q : Query κ)
    (ts : List Transition) : q.chain (t :: u :: ts) = q.chain (u :: t :: ts) := by
  simp only [chain_cons, ← bind_assoc, apply_apply_comm ht hu h]

/-- A call may go before all calls of other groups. -/
theorem chain_move {front : List Transition} (ht : t.Resolves)
    (hfront : ∀ u ∈ front, u.Resolves ∧ u.group ≠ t.group) (q : Query κ) (ts : List Transition) :
    q.chain (front ++ t :: ts) = q.chain (t :: (front ++ ts)) := by
  induction front generalizing q with
  | nil => rfl
  | cons u front ih =>
      obtain ⟨⟨hu, hgroup⟩, hfront⟩ := List.forall_mem_cons.mp hfront
      calc q.chain (u :: (front ++ t :: ts))
        _ = q.apply u >>= fun r => r.chain (front ++ t :: ts) := chain_cons q u _
        _ = q.apply u >>= fun r => r.chain (t :: (front ++ ts)) := by simp only [ih hfront]
        _ = q.chain (u :: t :: (front ++ ts)) := (chain_cons q u _).symm
        _ = q.chain (t :: u :: (front ++ ts)) := chain_swap hu ht hgroup q _

/-- The calls of a group, in order. -/
def calls (g : Group) (ts : List Transition) : List Transition :=
  ts.filter fun t => t.group = g

/-- The same calls, each group of them in the same order. -/
def Rearranged (ts us : List Transition) : Prop := ∀ g, calls g ts = calls g us

theorem Rearranged.perm (h : Rearranged ts us) : ts.Perm us := by
  rw [List.perm_iff_count]
  intro t
  have hcount (ts : List Transition) : (calls t.group ts).count t = ts.count t :=
    List.count_filter (by simp)
  rw [← hcount ts, h t.group, hcount us]

theorem Rearranged.chain_eq (h : Rearranged ts us) (hr : ∀ t ∈ ts, t.Resolves) (q : Query κ) :
    q.chain ts = q.chain us := by
  induction ts generalizing us q with
  | nil =>
      have hus : us = [] := List.nil_perm.mp h.perm
      rw [hus]
  | cons t ts ih =>
      have hus : ∀ u ∈ us, u.Resolves := fun u hu => hr u (h.perm.mem_iff.mpr hu)
      obtain ⟨ht, hts⟩ := List.forall_mem_cons.mp hr
      -- The first call of its group in `us`; what stands before it is of other groups.
      have hfirst : calls t.group us = t :: calls t.group ts := by
        rw [← h t.group]
        exact List.filter_cons_of_pos (by simp)
      obtain ⟨front, back, rfl, hfront, -, hback⟩ := List.filter_eq_cons_iff.mp hfirst
      have hothers : ∀ u ∈ front, u.group ≠ t.group := fun u hu => by simpa using hfront u hu
      have hrest : Rearranged ts (front ++ back) := by
        intro g
        have hg := h g
        simp only [calls, List.filter_append, List.filter_cons] at hg ⊢
        by_cases htg : t.group = g
        · subst htg
          have hnone : front.filter (fun u => u.group = t.group) = [] := by
            simpa using hothers
          rw [hnone, List.nil_append]
          exact hback.symm
        · simpa [htg] using hg
      have hmoved : ∀ u ∈ front, u.Resolves ∧ u.group ≠ t.group := fun u hu =>
        ⟨hus u (List.mem_append_left _ hu), hothers u hu⟩
      rw [chain_move ht hmoved, chain_cons, chain_cons]
      simp only [ih hrest hts]

/-- A chain of known operators fails only by a connective without a predicate. -/
theorem exists_of_chain_eq_error (hr : ∀ t ∈ ts, t.Resolves) {q : Query κ} {error : ChainError}
    (h : q.chain ts = .error error) :
    ∃ connective, error = .misuse (.connectiveBeforeWhere connective) := by
  induction ts generalizing q with
  | nil => cases h
  | cons t ts ih =>
      obtain ⟨ht, hts⟩ := List.forall_mem_cons.mp hr
      rw [chain_cons, apply] at h
      cases hd : q.descriptor.apply t with
      | ok d =>
          rw [hd] at h
          exact ih hts h
      | error error' =>
          obtain ⟨connective, _, -, -, herror⟩ := (Descriptor.apply_eq_error_iff ht).mp hd
          rw [hd] at h
          exact ⟨connective, (Except.error.inj h).symm.trans herror⟩

/-- A chain of known operators may be rearranged as long as the calls of each group keep
their order: it comes to the same query, or it fails in the same way. -/
theorem chain_rearranged (h : Rearranged ts us) (hr : ∀ t ∈ ts, t.Resolves) (q : Query κ) :
    (∃ r, q.chain ts = .ok r ∧ q.chain us = .ok r) ∨
      ∃ connective,
        q.chain ts = .error (.misuse (.connectiveBeforeWhere connective)) ∧
          q.chain us = .error (.misuse (.connectiveBeforeWhere connective)) := by
  rw [← h.chain_eq hr q]
  cases hts : q.chain ts with
  | ok r => exact .inl ⟨r, rfl, rfl⟩
  | error error =>
      obtain ⟨connective, rfl⟩ := exists_of_chain_eq_error hr hts
      exact .inr ⟨connective, rfl, rfl⟩

/-- An UPDATE that is talked of in two ways. It stays one although a later call counts,
and the predicate goes before the table. -/
theorem chain_rearranged_update :
    let ts : List Transition :=
      [.update "users", .count "*", .set (.ofPairs [("name", .text "x")]),
        .filter (.compare "id" (.spelled " = ") (.integer 1)),
        .extend .or (.ask "email" (.spelled "is null")), .fromTable "logs", .join .left "tags",
        .join .left "posts", .on "a" (.operator ⟨"="⟩) "b", .orderBy (.column "id" .asc),
        .orderBy (.written "name"), .limit 5, .limit 7, .force true, .copy]
    let us : List Transition :=
      [.limit 5, .filter (.compare "id" (.spelled " = ") (.integer 1)),
        .orderBy (.column "id" .asc), .join .left "tags", .update "users", .copy, .limit 7,
        .extend .or (.ask "email" (.spelled "is null")), .force true,
        .set (.ofPairs [("name", .text "x")]), .orderBy (.written "name"),
        .on "a" (.operator ⟨"="⟩) "b", .fromTable "logs", .join .left "posts", .count "*"]
    ∃ q : Query Unit, new.chain ts = .ok q ∧ new.chain us = .ok q ∧
      q.sql = "UPDATE users SET name = ? WHERE id = ? OR email IS NULL ORDER BY ?, ? LIMIT ?" := by
  intro ts us
  have hrearranged : Rearranged ts us := fun g => by cases g <;> rfl
  have hresolves : ∀ t ∈ ts, t.Resolves := by
    simp only [ts, List.forall_mem_cons, List.not_mem_nil, false_imp_iff, implies_true, and_true]
    exact ⟨trivial, trivial, trivial, ⟨_, rfl⟩, ⟨_, rfl⟩, trivial, trivial, trivial, ⟨_, rfl⟩,
      trivial, trivial, trivial, trivial, trivial, trivial⟩
  obtain ⟨q, hq, hsql⟩ : ∃ q : Query Unit, new.chain ts = .ok q ∧
      q.sql = "UPDATE users SET name = ? WHERE id = ? OR email IS NULL ORDER BY ?, ? LIMIT ?" :=
    ⟨_, rfl, by decide⟩
  rcases chain_rearranged hrearranged hresolves new with ⟨r, hr, hus⟩ | ⟨_, herror, -⟩
  · rw [hq] at hr
    cases hr
    exact ⟨q, hq, hus, hsql⟩
  · rw [hq] at herror
    cases herror

end Query

end SqlChain
