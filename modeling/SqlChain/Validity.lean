import SqlChain.Descriptor
import SqlChain.Error.Violation
import SqlChain.Identifier
import SqlChain.Text.Listing

/-!
# Validity

The checks that a query passes before it is sent, in a fixed order; the first
one that fails names the violation. A statement that changes rows needs a
predicate or an explicit word that none is meant, the values of a predicate
have to be as many as its placeholders, and text that would be written out
unquoted has to keep to its grammar.
-/

namespace SqlChain.Descriptor

/-- A SELECT returns columns or a count, not both. -/
def checkSelection (d : Descriptor) : Option Violation :=
  match d.selectColumns, d.count with
  | some columns, some expression => some (.selectAndCount columns expression)
  | _, _ => none

/-- An UPDATE says what it sets. -/
def checkAssignments (d : Descriptor) : Option Violation :=
  if d.effectiveMode = some .update ∧ d.setClause = none then some .updateWithoutSet else none

/-- An UPDATE or DELETE has a predicate or is forced. -/
def checkGuard (d : Descriptor) : Option Violation :=
  if d.whereClause = none ∧ d.force = false then
    match d.effectiveMode with
    | some .update => some .unguardedUpdate
    | some .delete => some .unguardedDelete
    | _ => none
  else none

/-- A predicate has as many values as placeholders. -/
def checkPlaceholders (d : Descriptor) : Option Violation :=
  match d.whereClause with
  | some predicate =>
      let marks := Text.placeholders predicate
      let values := d.whereParameters.length
      if marks = values then none else some (.placeholderMismatch marks values)
  | none => none

/-- There is a statement, and it has what its kind cannot do without. -/
def checkSubject (d : Descriptor) : Option Violation :=
  match d.effectiveMode with
  | none => some .emptyQuery
  | some .select => if d.fromTable = none then some .missingTable else none
  | some .insert => if d.insertColumns = [] then some .emptyInsert else none
  | some .update => none
  | some .delete => none

/-- The text of a place, refused if it is not in the grammar of the place. -/
def checkText (place : InlinePlace) (accepts : String → Bool) (text : String) :
    Option Violation :=
  if accepts text then none else some (.unsafeClause place text)

/-- Text that will be written out keeps to its grammar. -/
def checkInline (d : Descriptor) : Option Violation :=
  match d.clauseStyle with
  | .bound => none
  | .inline =>
      d.groupBy.bind (checkText .groupBy Identifier.isIdentifierList) <|>
      d.having.bind (checkText .having Identifier.isHavingText) <|>
      d.orderBy.findSome? (checkText .orderBy Identifier.isOrderTerm)

/-- The checks, in their order. -/
def checks : List (Descriptor → Option Violation) :=
  [checkSelection, checkAssignments, checkGuard, checkPlaceholders, checkSubject, checkInline]

/-- The first violation, if there is one. -/
def violation? (d : Descriptor) : Option Violation := checks.findSome? fun check => check d

/-- Whether the query passes all checks. -/
def IsValid (d : Descriptor) : Prop := d.violation? = none

instance (d : Descriptor) : Decidable d.IsValid := inferInstanceAs (Decidable (_ = none))

theorem violation?_eq_or (d : Descriptor) :
    d.violation? =
      d.checkSelection.or (d.checkAssignments.or (d.checkGuard.or (d.checkPlaceholders.or
        (d.checkSubject.or d.checkInline)))) := by
  have hcons (check : Descriptor → Option Violation) (rest : List (Descriptor → Option Violation)) :
      ((check :: rest).findSome? fun check => check d) =
        (check d).or (rest.findSome? fun check => check d) := by
    rw [List.findSome?_cons]
    cases check d <;> rfl
  simp only [violation?, checks, hcons, List.findSome?_nil, Option.or_none]

theorem checkPlaceholders_eq_none_iff {d : Descriptor} {predicate : String}
    (hp : d.whereClause = some predicate) :
    d.checkPlaceholders = none ↔ Text.placeholders predicate = d.whereParameters.length := by
  simp only [checkPlaceholders, hp]
  split <;> simp_all

theorem checkText_eq_none_iff {place : InlinePlace} {accepts : String → Bool} {text : String} :
    checkText place accepts text = none ↔ accepts text = true := by
  rw [checkText]
  cases accepts text <;> simp

theorem checkInline_of_inline {d : Descriptor} (hs : d.clauseStyle = .inline) :
    d.checkInline = (d.groupBy.bind (checkText .groupBy Identifier.isIdentifierList)).or
      ((d.having.bind (checkText .having Identifier.isHavingText)).or
        (d.orderBy.findSome? (checkText .orderBy Identifier.isOrderTerm))) := by
  simp only [checkInline, hs, Option.orElse_eq_orElse, Option.orElse_eq_or]

/-! ## What a valid descriptor is sure of -/

namespace IsValid

variable {d : Descriptor}

theorem passes (h : d.IsValid) {check : Descriptor → Option Violation} (hc : check ∈ checks) :
    check d = none :=
  List.findSome?_eq_none_iff.mp h check hc

theorem assignments (h : d.IsValid) (hm : d.effectiveMode = some .update) :
    ∃ assigned, d.setClause = some assigned := by
  have hc : d.checkAssignments = none := h.passes (by simp [checks])
  rw [checkAssignments] at hc
  split at hc
  · cases hc
  · next hn => exact Option.ne_none_iff_exists'.mp fun hs => hn ⟨hm, hs⟩

theorem guarded (h : d.IsValid)
    (hm : d.effectiveMode = some .update ∨ d.effectiveMode = some .delete) :
    d.whereClause ≠ none ∨ d.force = true := by
  have hc : d.checkGuard = none := h.passes (by simp [checks])
  rw [checkGuard] at hc
  split at hc
  · rcases hm with hm | hm <;> rw [hm] at hc <;> cases hc
  · next hn =>
      rcases Decidable.not_and_iff_not_or_not.mp hn with hw | hf
      · exact .inl hw
      · exact .inr (Bool.not_eq_false _ ▸ hf)

theorem placeholders (h : d.IsValid) {predicate : String} (hp : d.whereClause = some predicate) :
    Text.placeholders predicate = d.whereParameters.length :=
  (checkPlaceholders_eq_none_iff hp).mp (h.passes (by simp [checks]))

theorem mode (h : d.IsValid) : ∃ mode, d.effectiveMode = some mode := by
  have hc : d.checkSubject = none := h.passes (by simp [checks])
  cases hm : d.effectiveMode with
  | none => rw [checkSubject, hm] at hc; cases hc
  | some mode => exact ⟨mode, rfl⟩

theorem source (h : d.IsValid) (hm : d.effectiveMode = some .select) :
    ∃ table, d.fromTable = some table := by
  have hc : d.checkSubject = none := h.passes (by simp [checks])
  simp only [checkSubject, hm] at hc
  split at hc
  · cases hc
  · next hn => exact Option.ne_none_iff_exists'.mp hn

theorem columns (h : d.IsValid) (hm : d.effectiveMode = some .insert) : d.insertColumns ≠ [] := by
  have hc : d.checkSubject = none := h.passes (by simp [checks])
  simp only [checkSubject, hm] at hc
  split at hc
  · cases hc
  · next hn => exact hn

/-- Text that is written out is in the grammar of its place. -/
theorem inlined (h : d.IsValid) (hs : d.clauseStyle = .inline) :
    (∀ columns, d.groupBy = some columns → Identifier.isIdentifierList columns = true) ∧
      (∀ expression, d.having = some expression → Identifier.isHavingText expression = true) ∧
        ∀ term ∈ d.orderBy, Identifier.isOrderTerm term = true := by
  have hc : d.checkInline = none := h.passes (by simp [checks])
  rw [checkInline_of_inline hs, Option.or_eq_none_iff, Option.or_eq_none_iff] at hc
  obtain ⟨hg, hh, ho⟩ := hc
  refine ⟨?_, ?_, ?_⟩
  · intro columns he
    rw [he] at hg
    exact checkText_eq_none_iff.mp hg
  · intro expression he
    rw [he] at hh
    exact checkText_eq_none_iff.mp hh
  · intro term ht
    exact checkText_eq_none_iff.mp (List.findSome?_eq_none_iff.mp ho term ht)

end IsValid

end SqlChain.Descriptor
