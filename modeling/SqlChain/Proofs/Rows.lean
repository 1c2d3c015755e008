import SqlChain.Client.Scripted
import SqlChain.Proofs.Protocol
import SqlChain.Session

/-!
# All rows and the first of them

The same statement can be run for all its rows or for the first one. Both ways read rows
with the same reader, but one reads them all, up to the first that does not fit, while the
other never looks behind the head. So the two can end differently, and this file says how
far apart they can be: whoever gets all rows would have got their head, and whoever fails
at the head would have failed on all rows in the same words.

Of the client one thing is needed, that what it gives for a first row is the head of what
it gives for all. One that has a first row and fails over a later one is not of this kind:
a reader may refuse the row that it has, and that has nothing to do with its failure.
-/

namespace SqlChain

variable {κ σ α : Type}

/-! ## Reading rows

`readRows` goes through the rows from the front, so its laws are those of one row more. -/

section

variable {read : RowReader α} {row : Row} {rows : List Row} {m : Mismatch}

theorem readRow_of_ok {x : α} (h : read row = .ok x) : readRow read row = .ok x := by
  rw [readRow, h]
  rfl

theorem readRow_of_error (h : read row = .error m) :
    readRow read row = .error (.serialization (.mismatch m)) := by
  rw [readRow, h]
  rfl

theorem readRows_cons_of_ok {x : α} (h : read row = .ok x) (rows : List Row) :
    readRows read (row :: rows) = (readRows read rows).map (x :: ·) := by
  rw [readRows, List.mapM_cons, readRow_of_ok h]
  show (do let xs ← readRows read rows; pure (x :: xs)) = _
  cases readRows read rows <;> rfl

theorem readRows_cons_of_error (h : read row = .error m) (rows : List Row) :
    readRows read (row :: rows) = .error (.serialization (.mismatch m)) := by
  rw [readRows, List.mapM_cons, readRow_of_error h]
  rfl

/-- A row that does not fit, and why, behind rows that all do. -/
def FirstMisfit (read : RowReader α) (rows : List Row) (m : Mismatch) : Prop :=
  ∃ front row back, rows = front ++ row :: back ∧ (∀ r ∈ front, ∃ x, read r = .ok x) ∧
    read row = .error m

theorem firstMisfit_cons_of_ok {x : α} (h : read row = .ok x) :
    FirstMisfit read (row :: rows) m ↔ FirstMisfit read rows m := by
  constructor
  · rintro ⟨front, misfit, back, heq, hfront, hmisfit⟩
    cases front with
    | nil =>
        cases heq
        rw [h] at hmisfit
        cases hmisfit
    | cons first front =>
        cases heq
        exact ⟨front, misfit, back, rfl, fun r hr => hfront r (List.mem_cons_of_mem _ hr), hmisfit⟩
  · rintro ⟨front, misfit, back, rfl, hfront, hmisfit⟩
    exact ⟨row :: front, misfit, back, rfl, List.forall_mem_cons.mpr ⟨⟨x, h⟩, hfront⟩, hmisfit⟩

theorem firstMisfit_cons_of_error (h : read row = .error m) {m' : Mismatch} :
    FirstMisfit read (row :: rows) m' ↔ m' = m := by
  constructor
  · rintro ⟨front, misfit, back, heq, hfront, hmisfit⟩
    cases front with
    | nil =>
        cases heq
        rw [h] at hmisfit
        cases hmisfit
        rfl
    | cons first front =>
        cases heq
        obtain ⟨x, hx⟩ := hfront row List.mem_cons_self
        rw [h] at hx
        cases hx
  · rintro rfl
    exact ⟨[], row, rows, rfl, fun r hr => absurd hr List.not_mem_nil, h⟩

theorem not_firstMisfit_nil : ¬ FirstMisfit read [] m := by
  rintro ⟨front, row, back, h, -⟩
  simp at h

theorem readRows_eq_ok_iff {xs : List α} :
    readRows read rows = .ok xs ↔ rows.map read = xs.map .ok := by
  induction rows generalizing xs with
  | nil => cases xs <;> simp [readRows, pure, Except.pure]
  | cons row rows ih =>
      cases h : read row with
      | error m =>
          rw [readRows_cons_of_error h, List.map_cons, h]
          cases xs <;> simp
      | ok x =>
          rw [readRows_cons_of_ok h, List.map_cons, h]
          cases hrows : readRows read rows with
          | error e =>
              cases xs <;> simp [Except.map, ← ih, hrows]
          | ok ys => cases xs <;> simp [Except.map, ← ih, hrows]

theorem readRows_eq_error_iff {e : Error} :
    readRows read rows = .error e ↔
      ∃ m, FirstMisfit read rows m ∧ e = .serialization (.mismatch m) := by
  induction rows with
  | nil => simp [readRows, pure, Except.pure, not_firstMisfit_nil]
  | cons row rows ih =>
      cases h : read row with
      | error m =>
          rw [readRows_cons_of_error h]
          simp [firstMisfit_cons_of_error h, eq_comm]
      | ok x =>
          rw [readRows_cons_of_ok h]
          simp only [firstMisfit_cons_of_ok h, ← ih]
          cases readRows read rows <;> simp [Except.map]

theorem exists_readRows_eq_ok_iff :
    (∃ xs, readRows read rows = .ok xs) ↔ ∀ row ∈ rows, ∃ x, read row = .ok x := by
  induction rows with
  | nil => simp [readRows, pure, Except.pure]
  | cons row rows ih =>
      rw [List.forall_mem_cons, ← ih]
      cases h : read row with
      | error m => simp [readRows_cons_of_error h]
      | ok x =>
          rw [readRows_cons_of_ok h]
          cases readRows read rows <;> simp [Except.map]

theorem readFirst_head?_of_ok {xs : List α} (h : readRows read rows = .ok xs) :
    readFirst read rows.head? = .ok xs.head? := by
  rw [readRows_eq_ok_iff] at h
  cases rows with
  | nil => simp_all [readFirst]
  | cons row rows =>
      obtain ⟨x, xs, rfl, hrow, -⟩ := List.map_eq_cons_iff.mp h.symm
      simp only [List.head?_cons, readFirst, readRow_of_ok hrow.symm]
      rfl

theorem readRows_of_readFirst {e : Error} (h : readFirst read rows.head? = .error e) :
    readRows read rows = .error e := by
  cases rows with
  | nil => cases h
  | cons row rows =>
      rw [List.head?_cons, readFirst] at h
      cases hrow : read row with
      | ok x =>
          rw [readRow_of_ok hrow] at h
          cases h
      | error m =>
          rw [readRow_of_error hrow] at h
          rw [readRows_cons_of_error hrow]
          cases h
          rfl

end

/-! ## What a client gives first -/

namespace Backend

/-- What the client gives for the first row is the head of what it gives for all rows. -/
def HeadsRows (b : Backend κ σ) (c : κ) : Prop :=
  ∀ s before, (b.answer .first c s before).1 = (b.answer .all c s before).1.map List.head?

/-- What comes back for a statement, from either stage. -/
def reply (b : Backend κ σ) (c : κ) (s : Statement) (r : Request) (before : σ) :
    Except Error r.Answer :=
  match b.prepare c s.sql before with
  | (.error e, _) => .error e
  | (.ok (), between) => (b.answer r c s between).1

variable {b : Backend κ σ} {c : κ} {s : Statement} {before between : σ}

theorem reply_of_prepared (hp : b.prepare c s.sql before = (.ok (), between)) (r : Request) :
    b.reply c s r before = (b.answer r c s between).1 := by
  rw [reply, hp]

theorem HeadsRows.reply_first (hc : b.HeadsRows c) :
    b.reply c s .first before = (b.reply c s .all before).map List.head? := by
  rw [reply, reply]
  split
  · rfl
  · exact hc s _

end Backend

theorem Script.headsRows (c : Script) : Script.backend.HeadsRows c := by
  intro s before
  simp only [Script.backend]
  cases c.executeError <;> rfl

theorem Protocol.result_eq {b : Backend κ σ} {c : κ} {s : Statement} {r : Request}
    {read : r.Answer → Except Error α} {before : σ} {o : Outcome κ σ α}
    (h : Protocol b none (some c) s r read before o) :
    o.result = (b.reply c s r before).bind read := by
  rcases hp : b.prepare c s.sql before with ⟨e | _, between⟩
  · rw [(h.refused rfl c rfl e between hp).1, Backend.reply, hp]
    rfl
  · rw [(h.answered rfl c rfl between _ _ hp rfl).1, Backend.reply_of_prepared hp]

/-! ## The two operations together -/

/-- How two operations go together that send `s` to the client `c` and read what they get
with `read`, `all` for all rows and `first` for the first one. -/
structure RowsAgree (b : Backend κ σ) (c : κ) (s : Statement) (read : RowReader α) (before : σ)
    (all : Outcome κ σ (List α)) (first : Outcome κ σ (Option α)) : Prop where
  refused : ∀ e between, b.prepare c s.sql before = (.error e, between) →
    all.result = .error e ∧ first.result = .error e ∧
      all.events = [.executing s, .called c (.prepare s.sql)] ∧ first.events = all.events
  sent : ∀ between, b.prepare c s.sql before = (.ok (), between) →
    all.events = [.executing s, .called c (.prepare s.sql), .called c (.bind s.parameters),
        .called c (.request .all)] ∧
      first.events = [.executing s, .called c (.prepare s.sql), .called c (.bind s.parameters),
        .called c (.request .first)]
  failed : ∀ between e, b.prepare c s.sql before = (.ok (), between) →
    (b.answer .all c s between).1 = .error e → all.result = .error e ∧ first.result = .error e
  mapped : ∀ between (rows : List Row), b.prepare c s.sql before = (.ok (), between) →
    (b.answer .all c s between).1 = .ok rows →
      ((∃ xs, all.result = .ok xs) ↔ ∀ row ∈ rows, ∃ x, read row = .ok x) ∧
      (∀ xs, all.result = .ok xs ↔ rows.map read = xs.map .ok) ∧
      ∀ e, all.result = .error e ↔
        ∃ m, FirstMisfit read rows m ∧ e = .serialization (.mismatch m)
  headed : ∀ between (rows : List Row), b.prepare c s.sql before = (.ok (), between) →
    (b.answer .all c s between).1 = .ok rows →
      (rows = [] → first.result = .ok none) ∧
      ∀ row rest, rows = row :: rest →
        (∀ x, read row = .ok x → first.result = .ok (some x)) ∧
          ∀ m, read row = .error m → first.result = .error (.serialization (.mismatch m))
  head_of_ok : ∀ xs, all.result = .ok xs → first.result = .ok xs.head?
  error_of_error : ∀ e, first.result = .error e → all.result = .error e

section

variable {b : Backend κ σ} {c : κ} {s : Statement} {read : RowReader α} {before : σ}
  {all : Outcome κ σ (List α)} {first : Outcome κ σ (Option α)}

theorem rowsAgree_of_protocol (hc : b.HeadsRows c)
    (hall : Protocol b none (some c) s .all (readRows read) before all)
    (hfirst : Protocol b none (some c) s .first (readFirst read) before first) :
    RowsAgree b c s read before all first := by
  have hallreply : all.result = (b.reply c s .all before).bind (readRows read) := hall.result_eq
  have hfirstreply : first.result =
      ((b.reply c s .all before).map List.head?).bind (readFirst read) := by
    rw [← hc.reply_first]
    exact hfirst.result_eq
  refine ⟨?refused, ?sent, ?failed, ?mapped, ?headed, ?head_of_ok, ?error_of_error⟩
  case refused =>
    intro e between hp
    obtain ⟨ha, haevents, -⟩ := hall.refused rfl c rfl e between hp
    obtain ⟨hf, hfevents, -⟩ := hfirst.refused rfl c rfl e between hp
    exact ⟨ha, hf, haevents, hfevents.trans haevents.symm⟩
  case sent =>
    intro between hp
    exact ⟨(hall.answered rfl c rfl between _ _ hp rfl).2.1,
      (hfirst.answered rfl c rfl between _ _ hp rfl).2.1⟩
  case failed =>
    intro between e hp ha
    rw [hallreply, hfirstreply, Backend.reply_of_prepared hp, ha]
    exact ⟨rfl, rfl⟩
  case mapped =>
    intro between rows hp ha
    have hrows : all.result = readRows read rows := by
      rw [hallreply, Backend.reply_of_prepared hp, ha]
      rfl
    rw [hrows]
    exact ⟨exists_readRows_eq_ok_iff, fun _ => readRows_eq_ok_iff, fun _ => readRows_eq_error_iff⟩
  case headed =>
    intro between rows hp ha
    have hhead : first.result = readFirst read rows.head? := by
      rw [hfirstreply, Backend.reply_of_prepared hp, ha]
      rfl
    rw [hhead]
    constructor
    · rintro rfl
      rfl
    · rintro row rest rfl
      rw [List.head?_cons, readFirst]
      constructor
      · intro x hx
        rw [readRow_of_ok hx]
        rfl
      · intro m hm
        rw [readRow_of_error hm]
        rfl
  case head_of_ok =>
    intro xs h
    rw [hallreply] at h
    rw [hfirstreply]
    cases hreply : b.reply c s .all before with
    | error e =>
        rw [hreply] at h
        cases h
    | ok rows =>
        rw [hreply] at h
        exact readFirst_head?_of_ok h
  case error_of_error =>
    intro e h
    rw [hfirstreply] at h
    rw [hallreply]
    cases hreply : b.reply c s .all before with
    | error e' =>
        rw [hreply] at h
        cases h
        rfl
    | ok rows =>
        rw [hreply] at h
        exact readRows_of_readFirst h

end

namespace Query

/-- Run for all rows and for the first one, a query that is accepted sends the same
statement, and so does a statement of the caller's. All rows are read exactly if each of
them fits, one for one and in order; else the first that does not fit is told, and nothing
else is. The first row is the head, read whatever is behind it: so it is there whenever all
are, and it fails only as all fail. -/
theorem first_agrees_with_all (b : Backend κ σ) (fallback : Option κ) (q : Query κ)
    (read : RowReader α) (before : σ) {c : κ} (hclient : q.options.database.or fallback = some c)
    (hc : b.HeadsRows c) :
    (q.descriptor.IsValid →
      RowsAgree b c
        ⟨q.compile.sql ++
            (if q.descriptor.effectiveMode = some .select then "" else " RETURNING *"),
          q.compile.parameters⟩
        read before (q.all b fallback read before) (q.first b fallback read before)) ∧
      ∀ s, RowsAgree b c s read before (q.rawAll b fallback read s before)
        (q.rawFirst b fallback read s before) := by
  constructor
  · intro hv
    have hvalid : q.violation? = none := hv
    have hall := execute_protocol b fallback q .all before
    have hfirst := execute_protocol b fallback q .first before
    rw [hvalid, hclient, statementFor_of_wantsRows q rfl] at hall hfirst
    exact rowsAgree_of_protocol hc (hall.andThen (readRows read)) (hfirst.andThen (readFirst read))
  · intro s
    have hall := perform_protocol b fallback q .all s before
    have hfirst := perform_protocol b fallback q .first s before
    rw [hclient] at hall hfirst
    exact rowsAgree_of_protocol hc (hall.andThen (readRows read)) (hfirst.andThen (readFirst read))

/-- Two rows of which the second does not fit: the first is there, all are not. -/
theorem first_agrees_with_all_users :
    let users : Struct := ⟨"User", [⟨"id", .int64⟩, ⟨"name", .text⟩], none⟩
    let jan : Row := [("id", .int 1), ("name", .text "Jan")]
    let jane : Row := [("id", .text "two"), ("name", .text "Jane")]
    let own : Script := { name := "own", rows := [jan, jane] }
    let root : Query Script := ofOptions { database := some own, table := some "users" }
    let read := (RowType.struct users).reader
    root.descriptor.IsValid ∧
      (root.first Script.backend none read ()).result = .ok (some (.object jan)) ∧
      (root.all Script.backend none read ()).result =
        .error (.serialization (.mismatch (.wrongType (.text "two") "i64"))) ∧
      (root.rawFirst Script.backend none read ⟨"SELECT * FROM users WHERE id = ?", [.integer 1]⟩
          ()).events =
        [.executing ⟨"SELECT * FROM users WHERE id = ?", [.integer 1]⟩,
          .called own (.prepare "SELECT * FROM users WHERE id = ?"),
          .called own (.bind [.integer 1]), .called own (.request .first)] := by
  intro users jan jane own root read
  have hv : root.descriptor.IsValid := by decide
  obtain ⟨hquery, hraw⟩ := first_agrees_with_all Script.backend none root read () (c := own) rfl
    own.headsRows
  have hagree := hquery hv
  have hjan : read jan = .ok (.object jan) := rfl
  have hjane : read jane = .error (.wrongType (.text "two") "i64") := rfl
  have hmisfit : FirstMisfit read [jan, jane] (.wrongType (.text "two") "i64") :=
    ⟨[jan], jane, [], rfl, List.forall_mem_singleton.mpr ⟨_, hjan⟩, hjane⟩
  obtain ⟨-, hhead⟩ := hagree.headed () [jan, jane] rfl rfl
  obtain ⟨-, -, herror⟩ := hagree.mapped () [jan, jane] rfl rfl
  exact ⟨hv, (hhead jan [jane] rfl).1 _ hjan, (herror _).mpr ⟨_, hmisfit, rfl⟩,
    ((hraw _).sent () rfl).2⟩

end Query

end SqlChain
