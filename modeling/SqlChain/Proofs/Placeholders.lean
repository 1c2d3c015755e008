import Mathlib.Algebra.Group.Int.Defs
import Mathlib.Algebra.GroupWithZero.Nat
import Mathlib.Data.List.Forall2
import SqlChain.Proofs.Alphabet
import SqlChain.Proofs.Reach

/-!
# Placeholders and parameters stay in step

Binding is by position, so a statement whose question marks are not as many as
its parameters binds the wrong values without a word. A statement is joined of
clauses, and counting goes clause by clause: after the head, every clause of a
valid query has as many question marks as values. For the predicate that is
what the validator checks; for text that is written out it is what the grammars
leave no room for; everywhere else it is how the clause is laid out.

The head is another matter. Tables, columns, counts and the condition of a join
are the caller's words, they are shown as they are, and no check looks for a
question mark in them. So the account of the whole has one term more than its
parameters, `placeholders_sql`, and it comes out even exactly if the caller's
words have no question mark.
-/

namespace SqlChain

/-- As many question marks as values. -/
def Clause.IsBalanced (c : Clause) : Prop := Text.placeholders c.text = c.values.length

/-! ## Counting clause by clause -/

theorem Text.placeholders_join (texts : List String) :
    placeholders (String.join texts) = (texts.map placeholders).sum := by
  induction texts with
  | nil => rfl
  | cons text rest ih => rw [String.join_cons, placeholders_append, ih]; rfl

theorem Text.placeholders_listing (items : List String) :
    placeholders (listing items) = (items.map placeholders).sum := by
  induction items with
  | nil => rfl
  | cons item rest ih =>
      cases rest with
      | nil => simp [listing]
      | cons next rest =>
          have h : placeholders ", " = 0 := by decide
          rw [listing_cons_cons, placeholders_append, placeholders_append, h, ih, Nat.add_zero]
          rfl

theorem Text.placeholders_eq_zero_iff {s : String} : placeholders s = 0 ↔ '?' ∉ s.toList :=
  List.count_eq_zero

/-- Text in an alphabet without a question mark has none. -/
theorem Text.placeholders_eq_zero_of_alphabet {P : Char → Bool} {s : String}
    (hmark : P '?' = false) (h : ∀ {c}, c ∈ s.toList → P c = true) : placeholders s = 0 := by
  rw [placeholders_eq_zero_iff]
  intro hm
  rw [h hm] at hmark
  cases hmark

theorem Statement.placeholders_ofClauses {clauses : List Clause}
    (h : ∀ c ∈ clauses, c.IsBalanced) :
    Text.placeholders (Statement.ofClauses clauses).sql =
      (Statement.ofClauses clauses).parameters.length := by
  simp only [Statement.ofClauses, Text.placeholders_join, List.length_flatMap, List.map_map]
  exact congrArg List.sum (List.map_congr_left h)

theorem Statement.sql_ofClauses_cons (c : Clause) (rest : List Clause) :
    (Statement.ofClauses (c :: rest)).sql = c.text ++ (Statement.ofClauses rest).sql :=
  String.join_cons

theorem Statement.parameters_ofClauses_cons (c : Clause) (rest : List Clause) :
    (Statement.ofClauses (c :: rest)).parameters =
      c.values ++ (Statement.ofClauses rest).parameters := rfl

theorem Clause.isBalanced_ofOption {α : Type} {clause : α → Clause} {x : Option α}
    (h : ∀ a, x = some a → (clause a).IsBalanced) : (ofOption clause x).IsBalanced := by
  cases x with
  | none => rfl
  | some a => exact h a rfl

namespace Descriptor

variable {d : Descriptor}

/-! ## The tail -/

theorem groupByTail_isBalanced (hv : d.IsValid) : (d.groupByTail d.clauseStyle).IsBalanced := by
  refine Clause.isBalanced_ofOption fun columns hg => ?_
  cases hs : d.clauseStyle with
  | bound =>
      show Text.placeholders " GROUP BY ?" = 1
      decide
  | inline =>
      have hlist := (hv.inlined hs).1 columns hg
      have hzero := Text.placeholders_eq_zero_of_alphabet (P := Identifier.isListPart) rfl
        (Identifier.isListPart_of_isIdentifierList hlist)
      show Text.placeholders (" GROUP BY " ++ columns) = 0
      rw [Text.placeholders_append, hzero]
      rfl

theorem havingTail_isBalanced (hv : d.IsValid) : (d.havingTail d.clauseStyle).IsBalanced := by
  refine Clause.isBalanced_ofOption fun expression hh => ?_
  cases hs : d.clauseStyle with
  | bound =>
      show Text.placeholders " HAVING ?" = 1
      decide
  | inline =>
      have htext := (hv.inlined hs).2.1 expression hh
      have hzero := Text.placeholders_eq_zero_of_alphabet (P := Identifier.isHavingPart) rfl
        (Identifier.isHavingPart_of_isHavingText htext)
      show Text.placeholders (" HAVING " ++ expression) = 0
      rw [Text.placeholders_append, hzero]
      rfl

theorem orderByTail_isBalanced (hv : d.IsValid) : (d.orderByTail d.clauseStyle).IsBalanced := by
  cases ho : d.orderBy with
  | nil => rw [orderByTail, ho]; rfl
  | cons first others =>
      cases hs : d.clauseStyle with
      | bound =>
          rw [orderByTail, ho]
          show Text.placeholders (" ORDER BY " ++ Text.placeholderList (first :: others).length) =
            ((first :: others).map Value.text).length
          rw [Text.placeholders_append, Text.placeholders_placeholderList, List.length_map]
          exact Nat.zero_add _
      | inline =>
          have hterms := (hv.inlined hs).2.2
          have hzero : ∀ n ∈ d.orderBy.map Text.placeholders, n = 0 := by
            intro n hn
            obtain ⟨term, ht, rfl⟩ := List.mem_map.mp hn
            exact Text.placeholders_eq_zero_of_alphabet (P := Identifier.isOrderPart) rfl
              (Identifier.isOrderPart_of_isOrderTerm (hterms term ht))
          rw [orderByTail, ho]
          show Text.placeholders (" ORDER BY " ++ Text.listing (first :: others)) = 0
          rw [Text.placeholders_append, Text.placeholders_listing, ← ho,
            List.sum_eq_zero_iff_forall_eq_nat.mpr hzero]
          rfl

theorem limitTail_isBalanced : d.limitTail.IsBalanced := by
  refine Clause.isBalanced_ofOption fun n _ => ?_
  show Text.placeholders " LIMIT ?" = 1
  decide

theorem offsetTail_isBalanced : d.offsetTail.IsBalanced := by
  refine Clause.isBalanced_ofOption fun n _ => ?_
  show Text.placeholders " OFFSET ?" = 1
  decide

/-- The predicate is balanced if there is one, by the check; if there is none,
no value may be left over from an earlier one. -/
theorem whereTail_isBalanced (hv : d.IsValid)
    (hw : d.whereClause = none → d.whereParameters = []) : d.whereTail.IsBalanced := by
  cases hp : d.whereClause with
  | none =>
      rw [whereTail, hp]
      show Text.placeholders "" = d.whereParameters.length
      rw [hw hp]
      rfl
  | some predicate =>
      rw [whereTail, hp]
      show Text.placeholders (" WHERE " ++ predicate) = d.whereParameters.length
      rw [Text.placeholders_append, hv.placeholders hp]
      exact Nat.zero_add _

theorem tail_isBalanced (hv : d.IsValid)
    (hw : d.whereClause = none → d.whereParameters = []) : ∀ c ∈ d.tail, c.IsBalanced := by
  have hg := groupByTail_isBalanced hv
  have hh := havingTail_isBalanced hv
  have ho := orderByTail_isBalanced hv
  have hp := whereTail_isBalanced hv hw
  cases hs : d.clauseStyle <;> rw [hs] at hg hh ho <;> simp only [tail, hs]
  · simp [hg, hh, ho, hp, limitTail_isBalanced, offsetTail_isBalanced]
  · simp [hg, hh, ho, hp, limitTail_isBalanced, offsetTail_isBalanced]

/-! ## The head -/

/-- The caller's words that the head shows as they are. The assignments of an
UPDATE are not a field of their own, so the columns are those of the record that
they were made of, `assigned`. -/
def verbatim (assigned : List String) (d : Descriptor) : List String :=
  match d.effectiveMode with
  | some .select =>
      (d.count <|> d.selectColumns).toList ++
        d.tableText :: (d.joins.map Prod.snd ++ d.onClause.toList)
  | some .insert => d.tableText :: d.insertColumns
  | some .update => d.tableText :: assigned
  | some .delete => [d.tableText]
  | none => []

/-- The question marks among the caller's words. -/
def verbatimMarks (assigned : List String) (d : Descriptor) : Nat :=
  ((d.verbatim assigned).map Text.placeholders).sum

theorem placeholders_selection (d : Descriptor) :
    Text.placeholders d.selection =
      ((d.count <|> d.selectColumns).toList.map Text.placeholders).sum := by
  rw [selection]
  cases d.count with
  | some expression =>
      have hopen : Text.placeholders "COUNT(" = 0 := by decide
      have hclose : Text.placeholders ")" = 0 := by decide
      rw [Text.placeholders_append, Text.placeholders_append, hopen, hclose, Nat.zero_add]
      rfl
  | none =>
      cases d.selectColumns with
      | some columns => rfl
      | none => decide

theorem placeholders_joinsText (d : Descriptor) :
    Text.placeholders d.joinsText = ((d.joins.map Prod.snd).map Text.placeholders).sum := by
  rw [joinsText, Text.placeholders_join, List.map_map, List.map_map]
  refine congrArg List.sum (List.map_congr_left fun j _ => ?_)
  have hkind : Text.placeholders (" " ++ j.1.text ++ " JOIN ") = 0 := by cases j.1 <;> decide
  show Text.placeholders (" " ++ j.1.text ++ " JOIN " ++ j.2) = Text.placeholders j.2
  rw [Text.placeholders_append, hkind, Nat.zero_add]

theorem placeholders_onText (d : Descriptor) :
    Text.placeholders d.onText = (d.onClause.toList.map Text.placeholders).sum := by
  rw [onText]
  cases d.onClause with
  | none => rfl
  | some clause =>
      have hon : Text.placeholders " ON " = 0 := by decide
      rw [Text.placeholders_append, hon, Nat.zero_add]
      rfl

theorem placeholders_selectHead (hm : d.effectiveMode = some .select) (assigned : List String) :
    Text.placeholders d.selectHead.text = d.verbatimMarks assigned := by
  have hselect : Text.placeholders "SELECT " = 0 := by decide
  have hfrom : Text.placeholders " FROM " = 0 := by decide
  simp only [text_selectHead, verbatimMarks, verbatim, hm, Text.placeholders_append, hselect, hfrom,
    placeholders_selection, placeholders_joinsText, placeholders_onText, List.map_append,
    List.map_cons, List.sum_append_nat, List.sum_cons]
  omega

theorem placeholders_insertHead (hm : d.effectiveMode = some .insert) (assigned : List String) :
    Text.placeholders d.insertHead.text = d.insertColumns.length + d.verbatimMarks assigned := by
  have hinto : Text.placeholders "INSERT INTO " = 0 := by decide
  have hopen : Text.placeholders " (" = 0 := by decide
  have hvalues : Text.placeholders ") VALUES (" = 0 := by decide
  have hclose : Text.placeholders ")" = 0 := by decide
  simp only [text_insertHead, verbatimMarks, verbatim, hm, Text.placeholders_append, hinto, hopen,
    hvalues, hclose, Text.placeholders_listing, Text.placeholders_placeholderList,
    List.map_cons, List.sum_cons]
  omega

/-- Each assignment has the question mark of its value besides those of its column. -/
theorem placeholders_assignments (data : Record) :
    Text.placeholders data.assignments =
      data.values.length + (data.columns.map Text.placeholders).sum := by
  have hmark : Text.placeholders " = ?" = 1 := by decide
  rw [Record.assignments, Text.placeholders_listing, Record.length_values]
  induction data.columns with
  | nil => rfl
  | cons column rest ih =>
      simp only [List.map_cons, List.sum_cons, List.length_cons, Text.placeholders_append, hmark]
      omega

theorem placeholders_updateHead {data : Record} (hm : d.effectiveMode = some .update)
    (hset : d.setClause = some data.assignments) :
    Text.placeholders d.updateHead.text = data.values.length + d.verbatimMarks data.columns := by
  have hupdate : Text.placeholders "UPDATE " = 0 := by decide
  have hword : Text.placeholders " SET " = 0 := by decide
  simp only [updateHead, hset, verbatimMarks, verbatim, hm, Text.placeholders_append, hupdate,
    hword, placeholders_assignments, List.map_cons, List.sum_cons]
  omega

theorem placeholders_deleteHead (hm : d.effectiveMode = some .delete) (assigned : List String) :
    Text.placeholders d.deleteHead.text = d.verbatimMarks assigned := by
  have hdelete : Text.placeholders "DELETE FROM " = 0 := by decide
  simp only [deleteHead, verbatimMarks, verbatim, hm, Text.placeholders_append, hdelete,
    List.map_cons, List.map_nil, List.sum_cons, List.sum_nil]
  omega

end Descriptor

/-! ## The order of the clauses

`outline` says once more, without their contents, which optional clauses there
are and in which order. Under the bound style WHERE comes third, under the
inline style first. -/

/-- The clause opens with the words of its part if the part is there, and is
empty if not. -/
def Clause.Follows (c : Clause) (part : String × Bool) : Prop :=
  if part.2 then ∃ body, c.text = part.1 ++ body else c = .nothing

theorem Clause.follows_ofOption {α : Type} {clause : α → Clause} {words : String}
    (h : ∀ a, ∃ body, (clause a).text = words ++ body) (x : Option α) :
    (ofOption clause x).Follows (words, x.isSome) := by
  cases x with
  | none => rfl
  | some a => exact h a

namespace Descriptor

variable {d : Descriptor}

/-- The optional clauses by the words that each opens with, and whether the
descriptor asks for it. -/
def outline (d : Descriptor) : List (String × Bool) :=
  let predicate := (" WHERE ", d.whereClause.isSome)
  let groups := [(" GROUP BY ", d.groupBy.isSome), (" HAVING ", d.having.isSome)]
  let rows :=
    [(" ORDER BY ", !d.orderBy.isEmpty), (" LIMIT ", d.limit.isSome), (" OFFSET ", d.offset.isSome)]
  match d.clauseStyle with
  | .bound => groups ++ predicate :: rows
  | .inline => predicate :: groups ++ rows

theorem groupByTail_follows (style : ClauseStyle) :
    (d.groupByTail style).Follows (" GROUP BY ", d.groupBy.isSome) := by
  refine Clause.follows_ofOption (fun columns => ?_) d.groupBy
  cases style with
  | bound => exact ⟨"?", show " GROUP BY ?" = " GROUP BY " ++ "?" by decide⟩
  | inline => exact ⟨columns, rfl⟩

theorem havingTail_follows (style : ClauseStyle) :
    (d.havingTail style).Follows (" HAVING ", d.having.isSome) := by
  refine Clause.follows_ofOption (fun expression => ?_) d.having
  cases style with
  | bound => exact ⟨"?", show " HAVING ?" = " HAVING " ++ "?" by decide⟩
  | inline => exact ⟨expression, rfl⟩

theorem whereTail_follows (hw : d.whereClause = none → d.whereParameters = []) :
    d.whereTail.Follows (" WHERE ", d.whereClause.isSome) := by
  rw [whereTail]
  cases hp : d.whereClause with
  | none => rw [hw hp]; rfl
  | some predicate => exact ⟨predicate, rfl⟩

theorem orderByTail_follows (style : ClauseStyle) :
    (d.orderByTail style).Follows (" ORDER BY ", !d.orderBy.isEmpty) := by
  rw [orderByTail]
  cases d.orderBy with
  | nil => rfl
  | cons first others =>
      cases style with
      | bound => exact ⟨Text.placeholderList (first :: others).length, rfl⟩
      | inline => exact ⟨Text.listing (first :: others), rfl⟩

theorem limitTail_follows : d.limitTail.Follows (" LIMIT ", d.limit.isSome) :=
  Clause.follows_ofOption
    (fun _ => ⟨"?", show " LIMIT ?" = " LIMIT " ++ "?" by decide⟩) d.limit

theorem offsetTail_follows : d.offsetTail.Follows (" OFFSET ", d.offset.isSome) :=
  Clause.follows_ofOption
    (fun _ => ⟨"?", show " OFFSET ?" = " OFFSET " ++ "?" by decide⟩) d.offset

theorem tail_follows_outline (hw : d.whereClause = none → d.whereParameters = []) :
    List.Forall₂ Clause.Follows d.tail d.outline := by
  have hrows : ∀ style, List.Forall₂ Clause.Follows
      [d.orderByTail style, d.limitTail, d.offsetTail]
      [(" ORDER BY ", !d.orderBy.isEmpty), (" LIMIT ", d.limit.isSome),
        (" OFFSET ", d.offset.isSome)] := fun style =>
    .cons (orderByTail_follows style) (.cons limitTail_follows (.cons offsetTail_follows .nil))
  rw [tail, outline]
  cases d.clauseStyle with
  | bound =>
      exact .cons (groupByTail_follows .bound) (.cons (havingTail_follows .bound)
        (.cons (whereTail_follows hw) (hrows .bound)))
  | inline =>
      exact .cons (whereTail_follows hw) (.cons (groupByTail_follows .inline)
        (.cons (havingTail_follows .inline) (hrows .inline)))

/-- The values of LIMIT and OFFSET come last, under both styles. -/
theorem exists_values_tail (d : Descriptor) :
    ∃ front, d.tail.flatMap Clause.values =
      front ++ (d.limit.toList ++ d.offset.toList).map Value.ofCount := by
  have hlimit : d.limitTail.values = d.limit.toList.map Value.ofCount := by
    rw [limitTail]
    cases d.limit <;> rfl
  have hoffset : d.offsetTail.values = d.offset.toList.map Value.ofCount := by
    rw [offsetTail]
    cases d.offset <;> rfl
  rw [List.map_append, ← hlimit, ← hoffset, tail]
  cases d.clauseStyle with
  | bound =>
      refine ⟨[d.groupByTail .bound, d.havingTail .bound, d.whereTail,
        d.orderByTail .bound].flatMap Clause.values, ?_⟩
      simp
  | inline =>
      refine ⟨[d.whereTail, d.groupByTail .inline, d.havingTail .inline,
        d.orderByTail .inline].flatMap Clause.values, ?_⟩
      simp

end Descriptor

/-- `v` is the count `n` as a client takes it: an integer that is not negative
and stops at the greatest one there is. -/
def Value.Counts (n : UInt64) (v : Value) : Prop :=
  ∃ i : Int64, v = .integer i ∧ i.toInt = min (n.toNat : Int) (2 ^ 63 - 1) ∧ 0 ≤ i.toInt

theorem Value.counts_ofCount (n : UInt64) : Counts n (.ofCount n) := by
  have hmax : Word.maxInt64 = 2 ^ 63 - 1 := by decide
  have hi : (Int64.ofInt (min (n.toNat : Int) Word.maxInt64)).toInt =
      min (n.toNat : Int) (2 ^ 63 - 1) := by
    rw [hmax]
    exact Int64.toInt_ofInt_of_le (by omega) (by omega)
  exact ⟨_, rfl, hi, by omega⟩

/-! ## The whole statement -/

namespace Query

variable {κ : Type} {ts : List Transition} {q : Query κ}

/-- The columns that the last `set` of the chain assigned to. -/
def assignedColumns (ts : List Transition) : List String :=
  (ts.findSomeRev? Transition.data?).elim [] Record.columns

theorem placeholders_head (h : Reachable ts q) (hv : q.descriptor.IsValid) :
    Text.placeholders q.descriptor.head.text =
      q.descriptor.head.values.length + q.descriptor.verbatimMarks (assignedColumns ts) := by
  obtain ⟨mode, hm⟩ := hv.mode
  cases mode <;> simp only [Descriptor.head, hm]
  case select => exact (Descriptor.placeholders_selectHead hm _).trans (Nat.zero_add _).symm
  case delete => exact (Descriptor.placeholders_deleteHead hm _).trans (Nat.zero_add _).symm
  case insert =>
    rw [Descriptor.placeholders_insertHead hm, ← h.length_insertParameters]
    rfl
  case update =>
    obtain ⟨assigned, hs⟩ := hv.assignments hm
    have hset := h.setClause_eq
    have hpar := h.setParameters_eq
    cases hd : ts.findSomeRev? Transition.data? with
    | none => rw [hd, hs] at hset; cases hset
    | some data =>
        rw [hd] at hset hpar
        rw [Descriptor.placeholders_updateHead hm hset, assignedColumns, hd, Descriptor.updateHead,
          hset, hpar]
        rfl

theorem tail_isBalanced (h : Reachable ts q) (hv : q.descriptor.IsValid) :
    ∀ c ∈ q.descriptor.tail, c.IsBalanced :=
  Descriptor.tail_isBalanced hv h.whereParameters_eq_nil

/-- The account of a valid statement: its question marks are those of its
parameters and those of the caller's words in the head. -/
theorem placeholders_sql (h : Reachable ts q) (hv : q.descriptor.IsValid) :
    Text.placeholders q.sql =
      q.parameters.length + q.descriptor.verbatimMarks (assignedColumns ts) := by
  have htail := Statement.placeholders_ofClauses (tail_isBalanced h hv)
  have hhead := placeholders_head h hv
  show Text.placeholders (Statement.ofClauses (q.descriptor.head :: q.descriptor.tail)).sql =
    (Statement.ofClauses (q.descriptor.head :: q.descriptor.tail)).parameters.length + _
  rw [Statement.sql_ofClauses_cons, Statement.parameters_ofClauses_cons,
    Text.placeholders_append, List.length_append, hhead, htail]
  omega

/-- Nothing in a valid statement shifts a binding. Its text and its parameters
are cut into the same clauses, in the order of the style; each clause after the
head has as many question marks as values, and the head has more by those of the
caller's words alone. The last parameters are the last limit and the last offset
that were asked for. -/
theorem placeholders_by_clause (h : Reachable ts q) (hv : q.descriptor.IsValid) :
    Text.placeholders q.sql =
        q.parameters.length + q.descriptor.verbatimMarks (assignedColumns ts) ∧
      q.sql = q.descriptor.head.text ++ String.join (q.descriptor.tail.map Clause.text) ∧
      q.parameters = q.descriptor.head.values ++ q.descriptor.tail.flatMap Clause.values ∧
      Text.placeholders q.descriptor.head.text =
        q.descriptor.head.values.length + q.descriptor.verbatimMarks (assignedColumns ts) ∧
      List.Forall₂ Clause.Follows q.descriptor.tail q.descriptor.outline ∧
      (∀ c ∈ q.descriptor.tail, c.IsBalanced) ∧
      ∃ front counts, q.parameters = front ++ counts ∧
        List.Forall₂ Value.Counts
          ((ts.findSomeRev? Transition.limit?).toList ++
            (ts.findSomeRev? Transition.offset?).toList) counts := by
  refine ⟨placeholders_sql h hv, Statement.sql_ofClauses_cons _ _, rfl, placeholders_head h hv,
    Descriptor.tail_follows_outline h.whereParameters_eq_nil, tail_isBalanced h hv, ?_⟩
  obtain ⟨front, hfront⟩ := q.descriptor.exists_values_tail
  rw [h.limit_eq, h.offset_eq] at hfront
  refine ⟨q.descriptor.head.values ++ front, _, ?_,
    List.forall₂_map_right_iff.mpr (List.forall₂_same.mpr fun n _ => Value.counts_ofCount n)⟩
  rw [List.append_assoc, ← hfront]
  rfl

/-- An UPDATE with a question mark in the name of a column: six marks, five
parameters, the last two of them counts. -/
theorem placeholders_by_clause_update :
    let ts : List Transition :=
      [.update "users", .set (.ofPairs [("name", .text "Jane"), ("e?", .null)]),
        .filter (.compare "id" (.spelled "=") (.integer 1)), .orderBy (.written "id ASC"),
        .limit 18446744073709551615, .offset 2]
    ∃ q : Query Unit, (ofOptions { clauseStyle := .inline }).chain ts = .ok q ∧
      q.descriptor.IsValid ∧ q.parameters.length = 5 ∧ Text.placeholders q.sql = 6 ∧
      ∃ front counts, q.parameters = front ++ counts ∧
        List.Forall₂ Value.Counts [18446744073709551615, 2] counts := by
  intro ts
  obtain ⟨q, hq, hv, hlength, hverbatim⟩ : ∃ q : Query Unit,
      (ofOptions { clauseStyle := .inline }).chain ts = .ok q ∧ q.descriptor.IsValid ∧
      q.parameters.length = 5 ∧ q.descriptor.verbatimMarks ["name", "e?"] = 1 :=
    ⟨_, rfl, by decide, by decide, by decide⟩
  obtain ⟨hmarks, -, -, -, -, -, hcounts⟩ := placeholders_by_clause (reachable_iff.mpr ⟨_, hq⟩) hv
  refine ⟨q, hq, hv, hlength, ?_, hcounts⟩
  rw [hmarks, hlength]
  exact congrArg (5 + ·) hverbatim

/-- A valid statement has a parameter for each question mark exactly if the
caller's words in its head have no question mark. -/
theorem placeholders_eq_length_iff (h : Reachable ts q) (hv : q.descriptor.IsValid) :
    Text.placeholders q.sql = q.parameters.length ↔
      ∀ text ∈ q.descriptor.verbatim (assignedColumns ts), '?' ∉ text.toList := by
  have hmarks : Text.placeholders q.sql = q.parameters.length ↔
      q.descriptor.verbatimMarks (assignedColumns ts) = 0 := by
    rw [placeholders_sql h hv]
    omega
  rw [hmarks, Descriptor.verbatimMarks, List.sum_eq_zero_iff_forall_eq_nat]
  simp only [List.forall_mem_map, Text.placeholders_eq_zero_iff]

/-- A join on two columns, and a predicate with a value. -/
theorem placeholders_eq_length_iff_join :
    let ts : List Transition :=
      [.fromTable "posts", .join .left "users", .on "posts.user_id" (.spelled "==") "users.id",
        .filter (.compare "posts.id" (.spelled " > ") (.integer 10)), .limit 20]
    ∃ q : Query Unit, new.chain ts = .ok q ∧ q.descriptor.IsValid ∧
      Text.placeholders q.sql = q.parameters.length := by
  intro ts
  obtain ⟨q, hq, hv, hwords⟩ : ∃ q : Query Unit, new.chain ts = .ok q ∧ q.descriptor.IsValid ∧
      ∀ text ∈ q.descriptor.verbatim [], '?' ∉ text.toList :=
    ⟨_, rfl, by decide, by decide⟩
  exact ⟨q, hq, hv, (placeholders_eq_length_iff (reachable_iff.mpr ⟨_, hq⟩) hv).mpr hwords⟩

/-- Being valid is not enough: the condition of a join takes a question mark, and
nothing is bound to it. -/
theorem exists_isValid_placeholders_ne_length :
    ∃ q : Query Unit,
      new.chain [.fromTable "posts", .join .left "users", .onRaw "users.id = ?"] = .ok q ∧
        q.descriptor.IsValid ∧ Text.placeholders q.sql = 1 ∧ q.parameters = [] :=
  ⟨_, rfl, by decide, by decide, by decide⟩

end Query

end SqlChain
