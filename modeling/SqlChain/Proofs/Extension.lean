import SqlChain.Proofs.Rearrangement

/-!
# A valid query can be extended

Queries are values, and a valid one may be shared and extended by whoever gets hold of
it. This file says by which calls that is free. Some calls write only to fields that no
check looks at; they leave the verdict on any query as it is, also on one that is not
valid. Others write to fields that are looked at, and can only be what the checks ask
for: a table, assignments, the word that no predicate is meant, a condition that has a
value for its question mark.

That leaves the texts of GROUP BY, HAVING and ORDER BY. If the query writes them out,
the new one has to be in the grammar of its place, and the old ones already are. So it
is the new text that decides, and the new text that is named.
-/

namespace SqlChain

/-! ## Calls that extend -/

/-- The groups whose fields no check looks at. -/
def Group.unseen : List Group := [.joins, .on, .limit, .offset, .copies]

namespace Transition

/-- What there is against the text of a call if it is written out. -/
def objection? : Transition → Option Violation
  | .groupBy columns =>
      Descriptor.checkText .groupBy Identifier.isIdentifierList (Text.listing columns)
  | .having expression => Descriptor.checkText .having Identifier.isHavingText expression
  | .orderBy term => Descriptor.checkText .orderBy Identifier.isOrderTerm term.text
  | _ => none

/-- The call says no more than may be said in addition to what `d` is. A condition is
joined to a predicate, and the caller's words bring no question mark into it. -/
def Extends (d : Descriptor) : Transition → Prop
  | .fromTable _ | .join _ _ | .onRaw _ | .groupBy _ | .having _ | .orderBy _ | .limit _
  | .offset _ | .set _ | .copy => True
  | .force allowed => allowed = true
  | .on _ operator _ => ∃ o, operator.resolve = .ok o
  | .extend _ condition =>
      d.whereClause ≠ none ∧
        ∃ c, condition.resolve = .ok c ∧ '?' ∉ c.column.toList ∧ '?' ∉ c.operator.text.toList
  | _ => False

end Transition

namespace Descriptor

variable {d e : Descriptor} {t : Transition} {g : Group}

/-! ## Calls that no check looks at -/

theorem violation?_adopt (hg : g ∈ Group.unseen) (d e : Descriptor) :
    (d.adopt g e).violation? = d.violation? := by
  cases g <;> first | rfl | exact absurd hg (by decide)

theorem violation?_of_unseen (ht : d.Becomes t e) (hg : t.group ∈ Group.unseen) :
    e.violation? = d.violation? := by
  rw [eq_adopt_of_apply ht.apply_eq, violation?_adopt hg]

/-- A call that resolves goes well, unless it joins a condition to no predicate. -/
theorem exists_becomes (hr : t.Resolves)
    (hw : ∀ connective condition, t = .extend connective condition → d.whereClause ≠ none) :
    ∃ e, d.Becomes t e := by
  cases ht : d.apply t with
  | ok e => exact ⟨e, apply_eq_ok_iff.mp ht⟩
  | error error =>
      obtain ⟨connective, condition, rfl, hnone, -⟩ := (apply_eq_error_iff hr).mp ht
      exact absurd hnone (hw connective condition rfl)

theorem exists_becomes_of_unseen (hg : t.group ∈ Group.unseen) (hr : t.Resolves) :
    ∃ e, d.Becomes t e := by
  refine exists_becomes hr fun connective condition ht => ?_
  rw [ht] at hg
  exact absurd hg (by simp [Transition.group, Group.unseen])

theorem exists_becomes_of_extends (hx : t.Extends d) : ∃ e, d.Becomes t e := by
  refine exists_becomes ?_ fun connective condition ht => ?_
  · cases t
    case on => exact hx
    case extend =>
      obtain ⟨-, c, hc, -⟩ := hx
      exact ⟨c, hc⟩
    case filter => exact hx.elim
    all_goals trivial
  · rw [ht] at hx
    exact hx.1

/-! ## Calls that say what a check asks for -/

/-- Nothing but text that is written out can still be wrong. -/
structure Complete (d : Descriptor) : Prop where
  selection : d.checkSelection = none
  assignments : d.checkAssignments = none
  guard : d.checkGuard = none
  placeholders : d.checkPlaceholders = none
  subject : d.checkSubject = none

theorem Complete.violation?_eq (h : d.Complete) : d.violation? = d.checkInline := by
  rw [violation?_eq_or, h.selection, h.assignments, h.guard, h.placeholders, h.subject]
  simp only [Option.none_or]

theorem isValid_iff : d.IsValid ↔ d.Complete ∧ d.checkInline = none := by
  constructor
  · intro h
    have hchecks : ∀ check ∈ checks, check d = none := fun _ => h.passes
    simp only [checks, List.forall_mem_cons] at hchecks
    obtain ⟨hselection, hassignments, hguard, hplaceholders, hsubject, hinline, -⟩ := hchecks
    exact ⟨⟨hselection, hassignments, hguard, hplaceholders, hsubject⟩, hinline⟩
  · rintro ⟨hcomplete, hinline⟩
    rw [IsValid, hcomplete.violation?_eq, hinline]

namespace Complete

theorem effectiveMode_fromTable (h : d.Complete) (table : String) :
    { d with fromTable := some table }.effectiveMode = d.effectiveMode := by
  -- without a kind it is a SELECT already, for it has a table
  have hsubject := h.subject
  obtain ⟨mode, source⟩ := d
  cases mode with
  | some m => rfl
  | none =>
      cases source with
      | some source => rfl
      | none => cases hsubject

theorem fromTable (h : d.Complete) (table : String) :
    { d with fromTable := some table }.Complete := by
  have hmode := h.effectiveMode_fromTable table
  refine ⟨h.selection, ?_, ?_, h.placeholders, ?_⟩
  · rw [checkAssignments, hmode]
    exact h.assignments
  · rw [checkGuard, hmode]
    exact h.guard
  · have hsubject := h.subject
    rw [checkSubject] at hsubject ⊢
    rw [hmode]
    cases hm : d.effectiveMode with
    | none => rw [hm] at hsubject; cases hsubject
    | some m =>
        rw [hm] at hsubject
        cases m <;> first | rfl | exact hsubject

theorem set (h : d.Complete) (data : Record) :
    { d with setClause := some data.assignments, setParameters := data.values }.Complete where
  selection := h.selection
  assignments := if_neg fun hn => nomatch hn.2
  guard := h.guard
  placeholders := h.placeholders
  subject := h.subject

theorem force (h : d.Complete) : { d with force := true }.Complete where
  selection := h.selection
  assignments := h.assignments
  guard := if_neg fun hn => nomatch hn.2
  placeholders := h.placeholders
  subject := h.subject

theorem extend (h : d.Complete) {predicate : String} (hp : d.whereClause = some predicate)
    (connective : Connective) {c : Condition} (hcolumn : '?' ∉ c.column.toList)
    (hoperator : '?' ∉ c.operator.text.toList) : (d.extend predicate connective c).Complete where
  selection := h.selection
  assignments := h.assignments
  guard := if_neg fun hn => nomatch hn.1
  placeholders := by
    have hbefore := (checkPlaceholders_eq_none_iff hp).mp h.placeholders
    have hblank : Text.placeholders " " = 0 := by decide
    have hconnective : Text.placeholders connective.text = 0 := by cases connective <;> decide
    have hcondition : Text.placeholders c.sql = c.values.length := by
      rw [c.placeholders_sql, List.map_cons, List.map_cons, List.map_nil,
        Text.placeholders_eq_zero_iff.mpr hcolumn, Text.placeholders_eq_zero_iff.mpr hoperator]
      rfl
    refine (checkPlaceholders_eq_none_iff (d := d.extend predicate connective c) rfl).mpr ?_
    show Text.placeholders (predicate ++ " " ++ connective.text ++ " " ++ c.sql) =
      (d.whereParameters ++ c.values).length
    simp only [Text.placeholders_append, hblank, hconnective, hcondition, List.length_append]
    omega
  subject := h.subject

/-- A call that extends has only its text to answer for. -/
theorem becomes (h : d.Complete) (ht : d.Becomes t e) (hx : t.Extends d) : e.Complete := by
  cases ht
  case fromTable table => exact h.fromTable table
  case set data => exact h.set data
  case force allowed =>
    cases hx
    exact h.force
  case extend predicate condition c connective hp hc =>
    obtain ⟨-, c', hc', hcolumn, hoperator⟩ := hx
    rw [hc] at hc'
    cases hc'
    exact h.extend hp connective hcolumn hoperator
  case select | count | filter | filterRaw | insertInto | update | deleteFrom => exact hx.elim
  all_goals exact ⟨h.selection, h.assignments, h.guard, h.placeholders, h.subject⟩

end Complete

/-! ## Text that may be written out -/

/-- Where all texts are in order, the one that a call brings decides. -/
theorem checkInline_of_becomes (ht : d.Becomes t e) (hs : d.clauseStyle = .inline)
    (hd : d.checkInline = none) : e.checkInline = t.objection? := by
  rw [checkInline_of_inline hs] at hd
  rw [checkInline_of_inline (ht.clauseStyle_eq.trans hs)]
  obtain ⟨hgroupBy, hrest⟩ := Option.or_eq_none_iff.mp hd
  obtain ⟨hhaving, horderBy⟩ := Option.or_eq_none_iff.mp hrest
  -- the new text is alone in its place, or at the end of those of ORDER BY
  cases ht
  case groupBy columns =>
    show (checkText .groupBy _ _).or _ = _
    rw [hrest]
    exact Option.or_none
  case having expression =>
    show (Option.bind _ _).or ((checkText .having _ _).or _) = _
    rw [hgroupBy, horderBy]
    exact Option.or_none
  case orderBy term =>
    show (Option.bind _ _).or ((Option.bind _ _).or (List.findSome? _ (_ ++ [_]))) = _
    rw [hgroupBy, hhaving, List.findSome?_append, horderBy]
    exact List.findSome?_singleton
  all_goals exact hd

/-- The verdict on a valid query that is extended. -/
theorem IsValid.violation?_of_becomes (h : d.IsValid) (ht : d.Becomes t e)
    (hx : t.Extends d) :
    e.violation? = if d.clauseStyle = .inline then t.objection? else none := by
  obtain ⟨hcomplete, hinline⟩ := isValid_iff.mp h
  rw [(hcomplete.becomes ht hx).violation?_eq]
  by_cases hs : d.clauseStyle = .inline
  · rw [if_pos hs, checkInline_of_becomes ht hs hinline]
  · rw [if_neg hs, checkInline, ht.clauseStyle_eq]
    cases hd : d.clauseStyle with
    | bound => rfl
    | inline => exact absurd hd hs

/-- A call that extends a query extends what others have made of it. -/
theorem Becomes.extends {u : Transition} (ht : d.Becomes t e) (hu : u.Extends d) :
    u.Extends e := by
  cases u
  case extend connective condition =>
    refine ⟨?_, hu.2⟩
    cases ht
    case filter | filterRaw | extend => exact Option.some_ne_none _
    all_goals exact hu.1
  all_goals exact hu

end Descriptor

namespace Query

variable {κ : Type} {q : Query κ} {s : List Transition}

theorem exists_apply_of_becomes {t : Transition} {e : Descriptor}
    (ht : q.descriptor.Becomes t e) : ∃ r, q.apply t = .ok r ∧ r.descriptor = e :=
  ⟨⟨e, q.options⟩, apply_eq_ok_iff.mpr ⟨ht, rfl⟩, rfl⟩

/-- A valid query is extended freely, by as many calls as one likes. -/
theorem exists_chain_of_extends (h : q.descriptor.IsValid)
    (hs : ∀ t ∈ s, t.Extends q.descriptor ∧
      (q.descriptor.clauseStyle = .inline → t.objection? = none)) :
    ∃ r, q.chain s = .ok r ∧ r.descriptor.IsValid := by
  induction s generalizing q with
  | nil => exact ⟨q, rfl, h⟩
  | cons t s ih =>
      obtain ⟨⟨hx, hobjection⟩, hs⟩ := List.forall_mem_cons.mp hs
      obtain ⟨e, ht⟩ := Descriptor.exists_becomes_of_extends hx
      obtain ⟨p, hp, rfl⟩ := exists_apply_of_becomes ht
      have hvalid : p.descriptor.IsValid := by
        rw [Descriptor.IsValid, h.violation?_of_becomes ht hx]
        split
        · next hstyle => exact hobjection hstyle
        · rfl
      have hnext : ∀ u ∈ s, u.Extends p.descriptor ∧
          (p.descriptor.clauseStyle = .inline → u.objection? = none) := fun u hu => by
        rw [ht.clauseStyle_eq]
        exact ⟨ht.extends (hs u hu).1, (hs u hu).2⟩
      obtain ⟨r, hr, hvalid⟩ := ih hvalid hnext
      exact ⟨r, chain_cons_eq_ok_iff.mpr ⟨p, hp, hr⟩, hvalid⟩

/-- Joins, their condition, limits and offsets leave the verdict on every query as it
is. A valid query can be extended by each call that extends, and if it writes out its
clauses and the call is about one, then the new text decides: what is wrong is that
text, in that place. So it can be extended by any number of calls whose texts are in
order. -/
theorem extension_verdict (q : Query κ) :
    (∀ t, t.group ∈ Group.unseen → t.Resolves →
        ∃ r, q.apply t = .ok r ∧ r.violation? = q.violation?) ∧
      (q.descriptor.IsValid →
        (∀ t, t.Extends q.descriptor → ∃ r, q.apply t = .ok r ∧
          r.violation? =
            if q.descriptor.clauseStyle = .inline then t.objection? else none) ∧
        ∀ s, (∀ t ∈ s, t.Extends q.descriptor ∧
            (q.descriptor.clauseStyle = .inline → t.objection? = none)) →
          ∃ r, q.chain s = .ok r ∧ r.descriptor.IsValid) := by
  refine ⟨fun t hg hr => ?_, fun h => ⟨fun t hx => ?_, fun s hs => exists_chain_of_extends h hs⟩⟩
  · obtain ⟨e, ht⟩ := Descriptor.exists_becomes_of_unseen hg hr
    obtain ⟨r, hr, rfl⟩ := exists_apply_of_becomes ht
    exact ⟨r, hr, Descriptor.violation?_of_unseen ht hg⟩
  · obtain ⟨e, ht⟩ := Descriptor.exists_becomes_of_extends hx
    obtain ⟨r, hr, rfl⟩ := exists_apply_of_becomes ht
    exact ⟨r, hr, h.violation?_of_becomes ht hx⟩

/-- A query that writes out its clauses is extended by calls of many kinds, and refused
for a term that it must not write out. -/
theorem extension_verdict_inline :
    let root : Query Unit := ofOptions { table := some "users", clauseStyle := .inline }
    let s : List Transition :=
      [.limit 5, .extend .or (.ask "name" (.spelled "is null")), .groupBy ["age", "name"],
        .set (.ofPairs [("name", .text "?")]), .join .left "posts",
        .on "users.id" (.spelled "=") "posts.author", .fromTable "people",
        .orderBy (.column "age" .desc), .force true]
    ∃ q r p, root.chain [.filter (.compare "id" (.spelled "=") (.integer 1))] = .ok q ∧
      q.chain s = .ok r ∧ r.violation? = none ∧
      q.apply (.orderBy (.written "id; DROP TABLE users")) = .ok p ∧
      p.violation? = some (.unsafeClause .orderBy "id; DROP TABLE users") := by
  intro root s
  obtain ⟨q, hq, hvalid, hstyle, hpredicate⟩ : ∃ q,
      root.chain [.filter (.compare "id" (.spelled "=") (.integer 1))] = .ok q ∧
      q.descriptor.IsValid ∧ q.descriptor.clauseStyle = .inline ∧
      q.descriptor.whereClause ≠ none :=
    ⟨_, rfl, by decide, rfl, by decide⟩
  have hs : ∀ t ∈ s, t.Extends q.descriptor ∧
      (q.descriptor.clauseStyle = .inline → t.objection? = none) := by
    have hcondition : (Transition.extend .or (.ask "name" (.spelled "is null"))).Extends
        q.descriptor := ⟨hpredicate, _, rfl, by decide, by decide⟩
    have hon : (Transition.on "users.id" (.spelled "=") "posts.author").Extends q.descriptor :=
      ⟨_, rfl⟩
    simp only [s, List.forall_mem_cons, List.not_mem_nil, false_imp_iff, implies_true, and_true]
    exact ⟨⟨trivial, fun _ => rfl⟩, ⟨hcondition, fun _ => rfl⟩, ⟨trivial, fun _ => by decide⟩,
      ⟨trivial, fun _ => rfl⟩, ⟨trivial, fun _ => rfl⟩, ⟨hon, fun _ => rfl⟩,
      ⟨trivial, fun _ => rfl⟩, ⟨trivial, fun _ => by decide⟩, ⟨rfl, fun _ => rfl⟩⟩
  obtain ⟨-, hextend⟩ := extension_verdict q
  obtain ⟨hone, hmany⟩ := hextend hvalid
  obtain ⟨r, hr, hrvalid⟩ := hmany s hs
  obtain ⟨p, hp, hverdict⟩ := hone (.orderBy (.written "id; DROP TABLE users")) trivial
  rw [if_pos hstyle] at hverdict
  exact ⟨q, r, p, hq, hr, hrvalid, hp, hverdict.trans (by decide)⟩

end Query

end SqlChain
