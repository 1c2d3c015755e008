import SqlChain.Proofs.Records

/-!
# How an inlined statement is laid out

A statement with everything written out is a verb and its subject, and after them
clauses in the order of the SQL grammar. This file says which: those that calls have
asked for, each once, whatever the statement is.

That has a consequence which is worth spelling out. No check looks at whether a clause
fits the statement, or at whether the clause that it leans on is there. So an INSERT
takes a WHERE, an UPDATE a GROUP BY, a SELECT an ON without a JOIN and an OFFSET without
a LIMIT; each of them stays away exactly as long as nobody asks for it.
-/

namespace SqlChain

/-! ## Parts and places -/

/-- What a statement is laid out of, by the words that come first. -/
inductive Part where
  | verb (kind : Mode)
  | join (kind : JoinKind)
  | on
  | filter
  | groupBy
  | having
  | orderBy
  | limit
  | offset
deriving DecidableEq, Repr

namespace Part

/-- The words that come first. -/
def words : Part → String
  | .verb .select => "SELECT "
  | .verb .insert => "INSERT INTO "
  | .verb .update => "UPDATE "
  | .verb .delete => "DELETE FROM "
  | .join kind => " " ++ kind.text ++ " JOIN "
  | .on => " ON "
  | .filter => " WHERE "
  | .groupBy => " GROUP BY "
  | .having => " HAVING "
  | .orderBy => " ORDER BY "
  | .limit => " LIMIT "
  | .offset => " OFFSET "

/-- The position in the grammar. The joins share one. -/
def rank : Part → Nat
  | .verb _ => 0
  | .join _ => 1
  | .on => 2
  | .filter => 3
  | .groupBy => 4
  | .having => 5
  | .orderBy => 6
  | .limit => 7
  | .offset => 8

/-- One part may stand before another: by their positions, or as joins of two kinds. -/
def Before (part other : Part) : Prop :=
  part.rank < other.rank ∨ ∃ j k, part = .join j ∧ other = .join k ∧ j ≠ k

theorem Before.rank_le {part other : Part} (h : part.Before other) : part.rank ≤ other.rank := by
  rcases h with h | ⟨j, k, rfl, rfl, -⟩
  · exact h.le
  · exact Nat.le_refl 1

theorem Before.ne {part other : Part} (h : part.Before other) : part ≠ other := by
  rintro rfl
  rcases h with h | ⟨j, k, hj, hk, hne⟩
  · exact Nat.lt_irrefl _ h
  · cases hj
    cases hk
    exact hne rfl

end Part

/-- A place in a statement, and what is written there, if anything is. -/
structure Place where
  part : Part
  body : Option String

namespace Place

/-- The words of the part and what follows them, or nothing at all. -/
def text : Place → String
  | ⟨part, some body⟩ => part.words ++ body
  | ⟨_, none⟩ => ""

/-- The text of places one after another. -/
def lay (places : List Place) : String := String.join (places.map text)

/-- The parts whose places are not left empty. -/
def written (places : List Place) : List Part :=
  places.filterMap fun p => p.body.map fun _ => p.part

theorem lay_append (front back : List Place) : lay (front ++ back) = lay front ++ lay back := by
  rw [lay, List.map_append, String.join_append]
  rfl

theorem mem_written_iff {places : List Place} {part : Part} :
    part ∈ written places ↔ ∃ p ∈ places, p.part = part ∧ p.body.isSome = true := by
  simp only [written, List.mem_filterMap, Option.map_eq_some_iff, Option.isSome_iff_exists]
  constructor
  · rintro ⟨p, hp, body, hbody, rfl⟩
    exact ⟨p, hp, rfl, body, hbody⟩
  · rintro ⟨p, hp, rfl, body, hbody⟩
    exact ⟨p, hp, body, hbody, rfl⟩

theorem written_append (front back : List Place) :
    written (front ++ back) = written front ++ written back :=
  List.filterMap_append

theorem written_sublist (places : List Place) : (written places).Sublist (places.map part) := by
  induction places with
  | nil => exact List.Sublist.refl []
  | cons p rest ih =>
      obtain ⟨part, body⟩ := p
      cases body with
      | none => exact ih.cons part
      | some body => exact ih.cons_cons part

end Place

/-! ## The places of a statement -/

namespace Descriptor

/-- What a statement is about: all of it up to its first optional part. -/
def subject (d : Descriptor) : Mode → String
  | .select => d.selection ++ " FROM " ++ d.tableText
  | .insert => d.tableText ++ " (" ++ Text.listing d.insertColumns ++ ") VALUES (" ++
      Text.placeholderList d.insertColumns.length ++ ")"
  | .update => d.tableText ++ " SET " ++ d.setClause.getD ""
  | .delete => d.tableText

/-- The joins and their condition, which a SELECT alone has. -/
def joinPlaces (d : Descriptor) : Mode → List Place
  | .select => (d.joins.map fun j => ⟨.join j.1, some j.2⟩) ++ [⟨.on, d.onClause⟩]
  | _ => []

/-- The clauses that every statement has a place for. -/
def tailPlaces (d : Descriptor) : List Place :=
  [⟨.filter, d.whereClause⟩, ⟨.groupBy, d.groupBy⟩, ⟨.having, d.having⟩,
    ⟨.orderBy, if d.orderBy = [] then none else some (Text.listing d.orderBy)⟩,
    ⟨.limit, d.limit.map fun _ => "?"⟩, ⟨.offset, d.offset.map fun _ => "?"⟩]

/-- The places of a statement of kind `m`. -/
def places (d : Descriptor) (m : Mode) : List Place :=
  ⟨.verb m, some (d.subject m)⟩ :: (d.joinPlaces m ++ d.tailPlaces)

/-- The parts of a statement of kind `m`. -/
def parts (d : Descriptor) (m : Mode) : List Part := Place.written (d.places m)

variable {d : Descriptor} {m : Mode}

theorem lay_joinPlaces (d : Descriptor) :
    Place.lay (d.joinPlaces .select) = d.joinsText ++ d.onText := by
  have hon : Place.lay [⟨.on, d.onClause⟩] = d.onText := by
    rw [onText, Place.lay, List.map_singleton, String.join_cons]
    cases d.onClause with
    | none => rfl
    | some clause => exact String.append_empty
  have hjoins : Place.lay (d.joins.map fun j => ⟨.join j.1, some j.2⟩) = d.joinsText := by
    rw [Place.lay, joinsText, List.map_map]
    rfl
  rw [joinPlaces, Place.lay_append, hjoins, hon]

theorem text_head (hm : d.effectiveMode = some m) (hset : m = .update → d.setClause.isSome) :
    d.head.text = Place.lay (⟨.verb m, some (d.subject m)⟩ :: d.joinPlaces m) := by
  rw [head, hm, Place.lay, List.map_cons, String.join_cons]
  cases m with
  | select =>
      show d.selectHead.text = "SELECT " ++ d.subject .select ++ Place.lay (d.joinPlaces .select)
      rw [lay_joinPlaces, text_selectHead, subject]
      simp only [String.append_assoc]
  | insert =>
      show d.insertHead.text = "INSERT INTO " ++ d.subject .insert ++ ""
      rw [text_insertHead, subject, String.append_empty]
      simp only [String.append_assoc]
  | update =>
      obtain ⟨assigned, hassigned⟩ := Option.isSome_iff_exists.mp (hset rfl)
      show d.updateHead.text = "UPDATE " ++ d.subject .update ++ ""
      simp only [updateHead, subject, hassigned, Option.getD_some, String.append_empty,
        String.append_assoc]
  | delete => exact String.append_empty.symm

theorem lay_tailPlaces (hs : d.clauseStyle = .inline) :
    (Statement.ofClauses d.tail).sql = Place.lay d.tailPlaces := by
  have hwhere : d.whereTail.text = Place.text ⟨.filter, d.whereClause⟩ := by
    rw [whereTail]
    cases d.whereClause <;> rfl
  have hgroupBy : (d.groupByTail .inline).text = Place.text ⟨.groupBy, d.groupBy⟩ := by
    rw [groupByTail]
    cases d.groupBy <;> rfl
  have hhaving : (d.havingTail .inline).text = Place.text ⟨.having, d.having⟩ := by
    rw [havingTail]
    cases d.having <;> rfl
  have horderBy : (d.orderByTail .inline).text =
      Place.text ⟨.orderBy, if d.orderBy = [] then none else some (Text.listing d.orderBy)⟩ := by
    rw [orderByTail]
    cases d.orderBy <;> rfl
  have hlimit : d.limitTail.text = Place.text ⟨.limit, d.limit.map fun _ => "?"⟩ := by
    rw [limitTail]
    cases d.limit <;> rfl
  have hoffset : d.offsetTail.text = Place.text ⟨.offset, d.offset.map fun _ => "?"⟩ := by
    rw [offsetTail]
    cases d.offset <;> rfl
  rw [Statement.ofClauses, Place.lay, tail, hs]
  simp only [List.map_cons, hwhere, hgroupBy, hhaving, horderBy, hlimit, hoffset, tailPlaces]
  rfl

/-- An inlined statement is laid out place by place. -/
theorem sql_eq_lay (hs : d.clauseStyle = .inline) (hm : d.effectiveMode = some m)
    (hset : m = .update → d.setClause.isSome) : d.compile.sql = Place.lay (d.places m) := by
  rw [compile, clauses, Statement.sql_ofClauses_cons, text_head hm hset, lay_tailPlaces hs,
    ← Place.lay_append]
  rfl

/-! ## Which parts there are, and their order -/

theorem parts_eq (d : Descriptor) (m : Mode) :
    d.parts m = .verb m :: (Place.written (d.joinPlaces m) ++ Place.written d.tailPlaces) := by
  rw [parts, places, ← Place.written_append]
  rfl

theorem mem_written_joinPlaces_iff {part : Part} :
    part ∈ Place.written (d.joinPlaces m) ↔
      m = .select ∧ ((∃ j ∈ d.joins, .join j.1 = part) ∨
        .on = part ∧ d.onClause.isSome = true) := by
  rw [Place.mem_written_iff]
  cases m <;> simp [joinPlaces, or_and_right, exists_or]

theorem mem_written_tailPlaces_iff {part : Part} :
    part ∈ Place.written d.tailPlaces ↔
      .filter = part ∧ d.whereClause.isSome = true ∨
      .groupBy = part ∧ d.groupBy.isSome = true ∨
      .having = part ∧ d.having.isSome = true ∨
      .orderBy = part ∧ d.orderBy ≠ [] ∨
      .limit = part ∧ d.limit.isSome = true ∨
      .offset = part ∧ d.offset.isSome = true := by
  rw [Place.mem_written_iff]
  simp [tailPlaces]

/-- All optional parts but the joins, in the order of the grammar. -/
def optionalParts : List Part := [.on, .filter, .groupBy, .having, .orderBy, .limit, .offset]

theorem pairwise_before (hjoins : (Keyed.keys d.joins).Nodup) :
    (.verb m :: (d.joins.map (fun j => .join j.1) ++ optionalParts)).Pairwise Part.Before := by
  have hoptional : ∀ p ∈ optionalParts, 1 < p.rank := by decide
  have hordered : optionalParts.Pairwise fun p r => p.rank < r.rank := by decide
  refine List.pairwise_cons.mpr ⟨fun p hp => .inl ?_, List.pairwise_append.mpr ⟨?_, ?_, ?_⟩⟩
  · show 0 < p.rank
    rcases List.mem_append.mp hp with hp | hp
    · obtain ⟨j, -, rfl⟩ := List.mem_map.mp hp
      exact Nat.one_pos
    · exact Nat.lt_trans Nat.one_pos (hoptional p hp)
  · rw [List.pairwise_map]
    exact (List.pairwise_map.mp hjoins).imp fun hne => .inr ⟨_, _, rfl, rfl, hne⟩
  · exact hordered.imp .inl
  · intro p hp r hr
    obtain ⟨j, -, rfl⟩ := List.mem_map.mp hp
    exact .inl (hoptional r hr)

theorem pairwise_parts (hjoins : (Keyed.keys d.joins).Nodup) :
    (d.parts m).Pairwise Part.Before := by
  have hplaces : ((d.places m).map Place.part).Sublist
      (.verb m :: (d.joins.map (fun j => .join j.1) ++ optionalParts)) := by
    have htail : d.tailPlaces.map Place.part = optionalParts.tail := rfl
    rw [places, List.map_cons, List.map_append, htail]
    refine List.Sublist.cons_cons _ ?_
    cases m with
    | select =>
        rw [joinPlaces, List.map_append, List.map_map, List.append_assoc]
        exact List.Sublist.refl _
    | insert | update | delete =>
        -- no place for a join, nor for ON
        exact (List.tail_sublist optionalParts).trans (List.sublist_append_right _ _)
  exact (pairwise_before hjoins).sublist ((Place.written_sublist _).trans hplaces)

end Descriptor

namespace Part

variable {parts : List Part} {part : Part} {P : Part → Prop}

/-- Wherever `part` stands, something that `P` holds of stands before it. -/
def OnlyAfter (part : Part) (P : Part → Prop) (parts : List Part) : Prop :=
  ∀ front back, parts = front ++ part :: back → ∃ other ∈ front, P other

/-- Where the parts are in order, it is enough that something stands there at all. -/
theorem onlyAfter_iff (h : parts.Pairwise Before) (hP : ∀ other, P other → other.rank < part.rank) :
    part.OnlyAfter P parts ↔ (part ∈ parts → ∃ other ∈ parts, P other) := by
  constructor
  · intro hafter hmem
    obtain ⟨front, back, rfl⟩ := List.append_of_mem hmem
    obtain ⟨other, hother, hp⟩ := hafter front back rfl
    exact ⟨other, List.mem_append_left _ hother, hp⟩
  · rintro hexists front back rfl
    obtain ⟨other, hother, hp⟩ := hexists (List.mem_append_right _ List.mem_cons_self)
    refine ⟨other, ?_, hp⟩
    -- behind `part` its position would be too high
    rcases List.mem_append.mp hother with hfront | hback
    · exact hfront
    · have hle : part.rank ≤ other.rank := by
        rcases List.mem_cons.mp hback with rfl | hback
        · exact Nat.le_refl _
        · have hcons := (List.pairwise_append.mp h).2.1
          exact ((List.pairwise_cons.mp hcons).1 other hback).rank_le
      exact absurd (hP other hp) (Nat.not_lt.mpr hle)

/-- Nothing stands after the first part exactly if nothing else stands there. -/
theorem eq_singleton_iff {rest : List Part} (h : (part :: rest).Pairwise Before) :
    part :: rest = [part] ↔ ∀ other ∈ part :: rest, other = part := by
  constructor
  · intro hone other hother
    rw [hone] at hother
    exact List.mem_singleton.mp hother
  · intro hall
    have hrest : rest = [] := by
      refine List.eq_nil_iff_forall_not_mem.mpr fun other hother => ?_
      have hne : part ≠ other := ((List.pairwise_cons.mp h).1 other hother).ne
      exact hne (hall other (List.mem_cons_of_mem _ hother)).symm
    rw [hrest]

end Part

/-! ## What a chain asks for -/

namespace Query

variable {κ : Type} {ts : List Transition} {q : Query κ}

/-- Some call has had a word to say. -/
def Spoken {α : Type} (word : Transition → Option α) (ts : List Transition) : Prop :=
  ∃ t ∈ ts, (word t).isSome = true

/-- The kind of statement that a chain comes to, if it comes to any. -/
def kind (ts : List Transition) : Mode := (firstMode ts).getD .select

/-- The calls ask for the part. Joins and their condition are asked for in vain unless
the statement is a SELECT. -/
def Asks (ts : List Transition) : Part → Prop
  | .verb m => kind ts = m
  | .join k => kind ts = .select ∧ ∃ table, Transition.join k table ∈ ts
  | .on => kind ts = .select ∧ Spoken Transition.on? ts
  | .filter => ts.any Transition.setsPredicate = true
  | .groupBy => Spoken Transition.groups? ts
  | .having => Spoken Transition.having? ts
  | .orderBy => Spoken Transition.term? ts
  | .limit => Spoken Transition.limit? ts
  | .offset => Spoken Transition.offset? ts

theorem spoken_iff {α : Type} {word : Transition → Option α} :
    Spoken word ts ↔ (ts.findSomeRev? word).isSome = true := by
  rw [List.findSomeRev?_eq_findSome?_reverse, List.isSome_findSome?, List.any_reverse,
    List.any_eq_true, Spoken]

/-- A valid statement is of the kind that the chain comes to. -/
theorem Reachable.effectiveMode_eq_kind (h : Reachable ts q) (hv : q.descriptor.IsValid) :
    q.descriptor.effectiveMode = some (kind ts) := by
  obtain ⟨m, hm⟩ := hv.mode
  rw [hm, kind, ← h.mode_eq]
  rw [Descriptor.effectiveMode] at hm
  cases hmode : q.descriptor.mode with
  | some first =>
      rw [hmode] at hm
      exact hm.symm
  | none =>
      rw [hmode] at hm
      obtain ⟨_, -, rfl⟩ := Option.map_eq_some_iff.mp hm
      rfl

theorem Reachable.exists_join_iff (h : Reachable ts q) {k : JoinKind} :
    (∃ table, (k, table) ∈ q.descriptor.joins) ↔ ∃ table, Transition.join k table ∈ ts := by
  have hkeys : (∃ table, (k, table) ∈ q.descriptor.joins) ↔ k ∈ Keyed.keys q.descriptor.joins := by
    simp only [Keyed.keys, List.mem_map, Prod.exists, exists_and_right, exists_eq_right]
  rw [hkeys, h.joins_eq, Keyed.keys_ofList, List.mem_eraseDups]
  simp only [List.mem_map, List.mem_filterMap]
  constructor
  · rintro ⟨⟨_, table⟩, ⟨t, ht, hjoin⟩, rfl⟩
    cases t <;> cases hjoin
    exact ⟨table, ht⟩
  · rintro ⟨table, ht⟩
    exact ⟨(k, table), ⟨_, ht, rfl⟩, rfl⟩

theorem Reachable.mem_parts_iff (h : Reachable ts q) {part : Part} :
    part ∈ q.descriptor.parts (kind ts) ↔ Asks ts part := by
  have horderBy : q.descriptor.orderBy ≠ [] ↔ Spoken Transition.term? ts := by
    rw [h.orderBy_eq]
    simp [Spoken, Option.isSome_iff_ne_none]
  rw [Descriptor.parts_eq, List.mem_cons, List.mem_append, Descriptor.mem_written_joinPlaces_iff,
    Descriptor.mem_written_tailPlaces_iff, horderBy, h.isSome_whereClause, h.onClause_eq,
    h.groupBy_eq, h.having_eq, h.limit_eq, h.offset_eq]
  simp only [Option.isSome_map, ← spoken_iff]
  cases part with
  | verb m => simp [Asks, eq_comm (a := m)]
  | join k => simp [Asks, ← h.exists_join_iff]
  | on | filter | groupBy | having | orderBy | limit | offset => simp [Asks]

/-- A valid statement with everything written out has the verb of its kind first, and
after it, in the order of the grammar and each once, the parts that calls have asked
for. None of the rules that could be expected on top of that is kept in another way than
by the calls: that an INSERT ends after its values, that ON leans on a JOIN and OFFSET on
a LIMIT, that the rows of an UPDATE or a DELETE are not grouped. -/
theorem inlined_layout (h : Reachable ts q) (hs : q.options.clauseStyle = .inline)
    (hv : q.descriptor.IsValid) :
    let parts := q.descriptor.parts (kind ts)
    q.sql = Place.lay (q.descriptor.places (kind ts)) ∧
      parts.head? = some (.verb (kind ts)) ∧ parts.Pairwise Part.Before ∧
      (∀ part, part ∈ parts ↔ Asks ts part) ∧
      (kind ts = .insert →
        (parts = [.verb .insert] ↔ ∀ part, Asks ts part → part = .verb .insert)) ∧
      (Part.on.OnlyAfter (fun other => ∃ k, other = .join k) parts ↔
        (Asks ts .on → ∃ k, Asks ts (.join k))) ∧
      (Part.offset.OnlyAfter (fun other => other = .limit) parts ↔
        (Asks ts .offset → Asks ts .limit)) ∧
      (kind ts = .update ∨ kind ts = .delete →
        (.groupBy ∉ parts ∧ .having ∉ parts ↔ ¬ Asks ts .groupBy ∧ ¬ Asks ts .having)) := by
  intro parts
  have hmode : q.descriptor.effectiveMode = some (kind ts) := h.effectiveMode_eq_kind hv
  have hmem : ∀ part, part ∈ parts ↔ Asks ts part := fun _ => h.mem_parts_iff
  have hfirst : ∃ rest, parts = .verb (kind ts) :: rest := ⟨_, q.descriptor.parts_eq _⟩
  have hordered : parts.Pairwise Part.Before := by
    refine Descriptor.pairwise_parts ?_
    rw [h.joins_eq]
    exact Keyed.nodup_keys_ofList _
  refine ⟨Descriptor.sql_eq_lay (h.clauseStyle_eq.trans hs) hmode fun hu => ?_, ?_, hordered, hmem,
    fun hi => ?_, ?_, ?_, fun _ => ?_⟩
  · exact Option.isSome_iff_exists.mpr (hv.assignments (hmode.trans (congrArg some hu)))
  · obtain ⟨rest, hrest⟩ := hfirst
    rw [hrest]
    rfl
  · obtain ⟨rest, hrest⟩ := hfirst
    simp only [← hmem]
    rw [hi] at hrest
    rw [hrest] at hordered ⊢
    exact Part.eq_singleton_iff hordered
  · rw [Part.onlyAfter_iff hordered, hmem]
    · refine imp_congr_right fun _ => ⟨?_, ?_⟩
      · rintro ⟨_, hk, k, rfl⟩
        exact ⟨k, (hmem _).mp hk⟩
      · rintro ⟨k, hk⟩
        exact ⟨_, (hmem _).mpr hk, k, rfl⟩
    · rintro other ⟨k, rfl⟩
      exact Nat.lt_succ_self 1
  · rw [Part.onlyAfter_iff hordered, hmem]
    · simp only [exists_eq_right, hmem]
    · rintro other rfl
      exact Nat.lt_succ_self 7
  · rw [hmem, hmem]

/-- A SELECT whose parts are asked for in another order than they stand in. -/
theorem inlined_layout_select :
    let root : Query Unit := ofOptions { clauseStyle := .inline }
    let ts : List Transition :=
      [.offset 2, .limit 10, .groupBy ["day"], .onRaw "a = b", .join .left "users",
        .fromTable "posts"]
    ∃ q, root.chain ts = .ok q ∧ q.descriptor.IsValid ∧
      q.sql = "SELECT * FROM posts LEFT JOIN users ON a = b GROUP BY day LIMIT ? OFFSET ?" ∧
      Part.on.OnlyAfter (fun other => ∃ k, other = .join k) (q.descriptor.parts .select) ∧
      Part.offset.OnlyAfter (fun other => other = .limit) (q.descriptor.parts .select) := by
  intro root ts
  obtain ⟨q, hq, hv, hs, hplaces⟩ : ∃ q, root.chain ts = .ok q ∧ q.descriptor.IsValid ∧
      q.options.clauseStyle = .inline ∧ Place.lay (q.descriptor.places .select) =
        "SELECT * FROM posts LEFT JOIN users ON a = b GROUP BY day LIMIT ? OFFSET ?" :=
    ⟨_, rfl, by decide, rfl, by decide⟩
  obtain ⟨hlay, -, -, -, -, hon, hoffset, -⟩ := inlined_layout (reachable_iff.mpr ⟨_, hq⟩) hs hv
  have hjoined : Asks ts .on → ∃ k, Asks ts (.join k) := fun _ =>
    ⟨.left, rfl, "users", by decide⟩
  have hlimited : Asks ts .offset → Asks ts .limit := fun _ => ⟨.limit 10, by decide, rfl⟩
  exact ⟨q, hq, hv, hlay.trans hplaces, hon.mpr hjoined, hoffset.mpr hlimited⟩

/-- Four statements that pass the checks: an INSERT with a predicate, a SELECT with a
condition for no join, one that passes over rows of which it takes any number, and a
DELETE that groups. -/
theorem exists_isValid_misplaced :
    let root : Query Unit := ofOptions { table := some "users", clauseStyle := .inline }
    ∃ insert on offset grouped : Query Unit,
      root.chain [.insertInto "logs" (.ofPairs [("at", .integer 1)]), .filterRaw "at = 1"] =
          .ok insert ∧
        insert.descriptor.IsValid ∧
        insert.sql = "INSERT INTO logs (at) VALUES (?) WHERE at = 1" ∧
      root.chain [.onRaw "a = b"] = .ok on ∧ on.descriptor.IsValid ∧
        on.sql = "SELECT * FROM users ON a = b" ∧
      root.chain [.offset 2] = .ok offset ∧ offset.descriptor.IsValid ∧
        offset.sql = "SELECT * FROM users OFFSET ?" ∧
      root.chain [.deleteFrom "users", .force true, .groupBy ["name"]] = .ok grouped ∧
        grouped.descriptor.IsValid ∧ grouped.sql = "DELETE FROM users GROUP BY name" :=
  ⟨_, _, _, _, rfl, by decide, by decide, rfl, by decide, by decide, rfl, by decide, by decide,
    rfl, by decide, by decide⟩

end Query

end SqlChain
