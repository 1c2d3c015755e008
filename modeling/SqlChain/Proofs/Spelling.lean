import SqlChain.Proofs.ClosedForm
import SqlChain.Proofs.Sorting

/-!
# How operators are spelled

An operator may be given by a string. What counts is what is left of it without the white
space at its ends and in capitals, in the full sense of both: an ideographic space is cut,
and a long s or a ligature is an S and a T. What is left is looked up among the texts of
the known operators, and that is all that is ever done with the string. So a string that is
found stands for a text of a short list, and one that is not found ends the call.

Whether a condition has a placeholder is asked of the operator that was found, and so is
whether it has a value; the two cannot differ.
-/

namespace SqlChain

/-! ## White space and capitals -/

namespace Text

/-- The code points of white space. -/
def blankCodes : List Nat :=
  [9, 10, 11, 12, 13, 0x20, 0x85, 0xA0, 0x1680, 0x2000, 0x2001, 0x2002, 0x2003, 0x2004, 0x2005,
    0x2006, 0x2007, 0x2008, 0x2009, 0x200A, 0x2028, 0x2029, 0x202F, 0x205F, 0x3000]

theorem isBlank_iff {c : Char} : isBlank c = true ↔ c.toNat ∈ blankCodes := by
  have hcontrols (n : Nat) :
      9 ≤ n ∧ n ≤ 13 ↔ n = 9 ∨ n = 10 ∨ n = 11 ∨ n = 12 ∨ n = 13 := by omega
  have hspaces (n : Nat) :
      0x2000 ≤ n ∧ n ≤ 0x200A ↔ n = 0x2000 ∨ n = 0x2001 ∨ n = 0x2002 ∨ n = 0x2003 ∨ n = 0x2004 ∨
        n = 0x2005 ∨ n = 0x2006 ∨ n = 0x2007 ∨ n = 0x2008 ∨ n = 0x2009 ∨ n = 0x200A := by omega
  simp only [isBlank, blankCodes, Bool.or_eq_true, Bool.and_eq_true, decide_eq_true_eq, beq_iff_eq,
    hcontrols, hspaces, or_assoc, List.mem_cons, List.not_mem_nil, or_false]

/-- White space has no case. -/
theorem upperChar_of_isBlank {c : Char} (h : isBlank c = true) : upperChar c = [c] := by
  have hall : ∀ n ∈ blankCodes, upperChar (Char.ofNat n) = [Char.ofNat n] := by decide
  have hc := hall c.toNat (isBlank_iff.mp h)
  rwa [Char.ofNat_toNat] at hc

theorem isBlank_ofNat {n : Nat} (h : n ∉ blankCodes) : isBlank (Char.ofNat n) = false := by
  rw [Bool.eq_false_iff, ne_eq, isBlank_iff, Char.ofNat]
  by_cases hvalid : n.isValidChar
  · rw [dif_pos hvalid]
    exact h
  -- what is no code point is read as zero
  · rw [dif_neg hvalid]
    decide

/-- Several characters that stand for one are no white space. -/
theorem not_mem_blankCodes_of_expansion :
    ∀ e ∈ caseExpansions, e.2 ≠ [] ∧ ∀ n ∈ e.2, n ∉ blankCodes := by decide +kernel

/-- No run of one-to-one mappings leads to white space. -/
theorem not_mem_blankCodes_of_run :
    ∀ run ∈ caseRuns, ∀ n ∈ blankCodes,
      (n : Int) < run.first + run.offset ∨ run.last + run.offset < n := by
  decide +kernel

theorem not_isBlank_toUpper :
    ∀ n < 128, isBlank (Char.ofNat n) = false → isBlank (Char.ofNat n).toUpper = false := by
  decide +kernel

theorem upperOther_spec {c : Char} (h : isBlank c = false) :
    upperOther c ≠ [] ∧ ∀ d ∈ upperOther c, isBlank d = false := by
  rw [upperOther]
  split
  · next codes hcodes =>
      obtain ⟨front, back, heq, -⟩ := List.lookup_eq_some_iff.mp hcodes
      have hmem : (c.toNat, codes) ∈ caseExpansions :=
        heq ▸ List.mem_append_right front List.mem_cons_self
      obtain ⟨hne, hother⟩ := not_mem_blankCodes_of_expansion _ hmem
      refine ⟨by simpa using hne, fun d hd => ?_⟩
      obtain ⟨n, hn, rfl⟩ := List.mem_map.mp hd
      exact isBlank_ofNat (hother n hn)
  · split
    · next run hrun =>
        refine ⟨List.cons_ne_nil _ _, fun d hd => ?_⟩
        rw [List.mem_singleton.mp hd]
        apply isBlank_ofNat
        intro hn
        have hcovers := List.find?_some hrun
        simp only [CaseRun.covers, Bool.and_eq_true, decide_eq_true_eq] at hcovers
        have hbound := not_mem_blankCodes_of_run run (List.mem_of_find?_eq_some hrun) _ hn
        have hpos : (0 : Int) < (c.toNat + run.offset).toNat := by
          rw [blankCodes] at hn
          simp only [List.mem_cons, List.not_mem_nil, or_false] at hn
          omega
        omega
    · exact ⟨List.cons_ne_nil _ _, fun d hd => by rw [List.mem_singleton.mp hd]; exact h⟩

/-- In capitals, what is no white space is something, and no white space. -/
theorem upperChar_spec {c : Char} (h : isBlank c = false) :
    upperChar c ≠ [] ∧ ∀ d ∈ upperChar c, isBlank d = false := by
  rw [upperChar]
  split
  · next hascii =>
      refine ⟨List.cons_ne_nil _ _, fun d hd => ?_⟩
      have hupper := not_isBlank_toUpper c.toNat hascii
      rw [Char.ofNat_toNat] at hupper
      rw [List.mem_singleton.mp hd]
      exact hupper h
  · exact upperOther_spec h

/-- Blanks are skipped before or after each character is written otherwise, if blanks stay
as they are and nothing else becomes one or vanishes. -/
theorem skipBlanks_flatMap {f : Char → List Char} (hblank : ∀ c, isBlank c = true → f c = [c])
    (hother : ∀ c, isBlank c = false → f c ≠ [] ∧ ∀ d ∈ f c, isBlank d = false)
    (cs : List Char) : skipBlanks (cs.flatMap f) = (skipBlanks cs).flatMap f := by
  induction cs with
  | nil => rfl
  | cons c cs ih =>
      rw [List.flatMap_cons]
      cases hc : isBlank c with
      | true =>
          have hskip (rest : List Char) : skipBlanks (c :: rest) = skipBlanks rest :=
            List.dropWhile_cons_of_pos hc
          rw [hblank c hc, List.singleton_append, hskip, hskip, ih]
      | false =>
          have hstop : ∀ (d : Char) (rest : List Char), isBlank d = false →
              skipBlanks (d :: rest) = d :: rest :=
            fun d rest hd => List.dropWhile_cons_of_neg (by simp [hd])
          obtain ⟨hne, hall⟩ := hother c hc
          obtain ⟨d, ds, hf⟩ := List.exists_cons_of_ne_nil hne
          rw [hstop c cs hc, List.flatMap_cons, hf, List.cons_append]
          exact hstop d _ (hall d (hf ▸ List.mem_cons_self))

theorem trim_upper (s : String) : trim (upper s) = upper (trim s) := by
  have hreverse (cs : List Char) :
      (cs.flatMap upperChar).reverse = cs.reverse.flatMap fun c => (upperChar c).reverse := by
    rw [List.reverse_flatMap]
    rfl
  have hback (cs : List Char) : skipBlanks (cs.flatMap fun c => (upperChar c).reverse) =
      (skipBlanks cs).flatMap fun c => (upperChar c).reverse := by
    refine skipBlanks_flatMap (fun c hc => ?_) (fun c hc => ?_) cs
    · rw [upperChar_of_isBlank hc]
      rfl
    · obtain ⟨hne, hall⟩ := upperChar_spec hc
      exact ⟨by simpa using hne, fun d hd => hall d (List.mem_reverse.mp hd)⟩
  have hlist (cs : List Char) :
      trimList (cs.flatMap upperChar) = (trimList cs).flatMap upperChar := by
    rw [trimList, skipBlanks_flatMap (fun c => upperChar_of_isBlank) (fun c => upperChar_spec),
      hreverse, hback, trimList]
    simp [List.reverse_flatMap, Function.comp_def]
  rw [trim, upper, String.toList_ofList, hlist, upper, trim, String.toList_ofList]

end Text

/-! ## What a string names -/

namespace Operator

/-- The texts of the operators that a string can name. -/
def vocabulary : List String :=
  ["=", "!=", "<>", ">", "<", ">=", "<=", "LIKE", "NOT LIKE", "GLOB", "NOT GLOB", "IN", "NOT IN",
    "IS", "IS NOT", "BETWEEN", "NOT BETWEEN", "IS NULL", "IS NOT NULL", "NOT", "EXISTS"]

/-- Without white space at its ends and in capitals, the string is one of the texts or
two equality signs. -/
def Named (s : String) : Prop := normalize s ∈ vocabulary ∨ normalize s = "=="

/-- The text that such a string stands for. -/
def spelledText (s : String) : String := if normalize s = "==" then "=" else normalize s

variable {s s' t : String}

instance : Decidable (Named s) := inferInstanceAs (Decidable (_ ∨ _))

theorem spellings_eq : spellings = ("==", "=") :: vocabulary.map fun t => (t, t) := rfl

theorem ne_double_of_mem (h : t ∈ vocabulary) : t ≠ "==" := by
  rintro rfl
  exact absurd h (by decide)

theorem lookup_spellings_of_mem (h : t ∈ vocabulary) : spellings.lookup t = some t := by
  rw [spellings_eq, List.lookup_cons, beq_false_of_ne (ne_double_of_mem h)]
  exact List.lookup_graph _ h

theorem lookup_spellings_of_not_mem (h : t ∉ vocabulary) (hne : t ≠ "==") :
    spellings.lookup t = none := by
  rw [spellings_eq, List.lookup_cons, beq_false_of_ne hne, List.lookup_eq_none_iff]
  intro entry hentry
  obtain ⟨text, htext, rfl⟩ := List.mem_map.mp hentry
  exact bne_iff_ne.mpr fun heq => h (heq ▸ htext)

theorem spelledText_mem (h : Named s) : spelledText s ∈ vocabulary := by
  rw [spelledText]
  split
  · decide
  · next hne => exact h.resolve_right hne

theorem ofSpelling?_of_named (h : Named s) : ofSpelling? s = some ⟨spelledText s⟩ := by
  rw [ofSpelling?, spelledText]
  split
  · next heq =>
      rw [heq]
      rfl
  · next hne =>
      rw [lookup_spellings_of_mem (h.resolve_right hne)]
      rfl

theorem ofSpelling?_of_not_named (h : ¬ Named s) : ofSpelling? s = none := by
  obtain ⟨hmem, hne⟩ := not_or.mp h
  rw [ofSpelling?, lookup_spellings_of_not_mem hmem hne]
  rfl

/-- The texts are in capitals and have no white space at their ends. -/
theorem normalize_of_mem : ∀ t ∈ vocabulary, normalize t = t := by decide

theorem spelledText_of_mem (h : t ∈ vocabulary) : spelledText t = t := by
  rw [spelledText, normalize_of_mem t h, if_neg (ne_double_of_mem h)]

theorem named_of_mem (h : t ∈ vocabulary) : Named t := .inl ((normalize_of_mem t h).symm ▸ h)

theorem normalize_padded {front back : String}
    (hfront : ∀ c ∈ front.toList, Text.isBlank c = true)
    (hback : ∀ c ∈ back.toList, Text.isBlank c = true) :
    normalize (front ++ s ++ back) = normalize s := by
  rw [normalize, normalize, Text.trim, Text.trim, String.toList_append, String.toList_append,
    Text.trimList_append_of_blanks hback, Text.trimList_blanks_append hfront]

theorem normalize_of_upper (h : Text.upper s = Text.upper s') : normalize s = normalize s' := by
  rw [normalize, normalize, ← Text.trim_upper, ← Text.trim_upper, h]

end Operator

namespace OperatorArg

variable {s s' : String}

theorem resolve_of_named (h : Operator.Named s) :
    (spelled s).resolve = .ok ⟨Operator.spelledText s⟩ := by
  rw [resolve, Operator.ofSpelling?_of_named h]

theorem resolve_of_not_named (h : ¬ Operator.Named s) : (spelled s).resolve = .error ⟨s⟩ := by
  rw [resolve, Operator.ofSpelling?_of_not_named h]

theorem toOption_resolve_congr (h : Operator.normalize s' = Operator.normalize s) :
    (spelled s').resolve.toOption = (spelled s).resolve.toOption := by
  have hsame : Operator.ofSpelling? s' = Operator.ofSpelling? s := by
    rw [Operator.ofSpelling?, Operator.ofSpelling?, h]
  rw [resolve, resolve, hsame]
  cases Operator.ofSpelling? s <;> rfl

end OperatorArg

/-! ## Calls with an operator -/

namespace ConditionArg

/-- A condition given as a triple, or as a pair without a value. -/
def given (column : String) (operator : OperatorArg) : Option Value → ConditionArg
  | some value => .compare column operator value
  | none => .ask column operator

/-- The operator that the condition is given with. -/
def operator? : ConditionArg → Option OperatorArg
  | .compare _ operator _ | .ask _ operator => some operator
  | .exact _ => none

/-- The condition given with another operator. -/
def withOperator (operator : OperatorArg) : ConditionArg → ConditionArg
  | .compare column _ value => .compare column operator value
  | .ask column _ => .ask column operator
  | .exact condition => .exact condition

variable {operator operator' : OperatorArg}

theorem resolve_given {o : Operator} (ho : operator.resolve = .ok o) (column : String)
    (value : Option Value) :
    (given column operator value).resolve =
      .ok ⟨column, o, if o.isUnary then none else value⟩ := by
  cases value with
  | none => rw [given, resolve_ask, ho, ite_self]; rfl
  | some value => rw [given, resolve_compare, ho]; rfl

theorem resolve_of_not_named {condition : ConditionArg} {s : String} (hs : ¬ Operator.Named s)
    (hc : condition.operator? = some (.spelled s)) : condition.resolve = .error ⟨s⟩ := by
  have herror := OperatorArg.resolve_of_not_named hs
  cases condition
  case compare column written value =>
    cases hc
    rw [resolve_compare, herror]
    rfl
  case ask column written =>
    cases hc
    rw [resolve_ask, herror]
    rfl
  case exact => cases hc

theorem toOption_resolve_withOperator {condition : ConditionArg}
    (hc : condition.operator? = some operator)
    (h : operator'.resolve.toOption = operator.resolve.toOption) :
    (condition.withOperator operator').resolve.toOption = condition.resolve.toOption := by
  have hmap : ∀ (f : Operator → Condition) (x : Except UnknownOperator Operator),
      (x.map f).toOption = x.toOption.map f := fun f x => by cases x <;> rfl
  cases condition
  case compare column written value =>
    cases hc
    rw [withOperator, resolve_compare, resolve_compare, hmap, hmap, h]
  case ask column written =>
    cases hc
    rw [withOperator, resolve_ask, resolve_ask, hmap, hmap, h]
  case exact => cases hc

end ConditionArg

namespace Transition

/-- The operator that the call is given. -/
def operator? : Transition → Option OperatorArg
  | .on _ operator _ => some operator
  | .filter condition | .extend _ condition => condition.operator?
  | _ => none

/-- The call with another operator. -/
def withOperator (operator : OperatorArg) : Transition → Transition
  | .on left _ right => .on left operator right
  | .filter condition => .filter (condition.withOperator operator)
  | .extend connective condition => .extend connective (condition.withOperator operator)
  | t => t

/-- The call with the operator itself in the place of a string that names it. -/
def spellOut (t : Transition) : Transition :=
  match t.operator? with
  | some (.spelled s) => t.withOperator (.operator ⟨Operator.spelledText s⟩)
  | _ => t

/-- The same call, with the same string for an operator up to white space and case. -/
inductive Respelled : Transition → Transition → Prop where
  | same (t : Transition) : Respelled t t
  | spelled {t : Transition} {s s' : String} (ht : t.operator? = some (.spelled s))
      (hs : Operator.normalize s' = Operator.normalize s) :
      Respelled t (t.withOperator (.spelled s'))

end Transition

namespace Query

variable {κ : Type} {q : Query κ} {t u : Transition} {operator operator' : OperatorArg}

theorem apply_on (q : Query κ) (left : String) (operator : OperatorArg) (right : String) :
    q.apply (.on left operator right) =
      (operator.resolve.mapError .unknownOperator).map fun o =>
        { q with
          descriptor.onClause := some (left ++ " " ++ o.text ++ " " ++ right) } := by
  rw [apply, Descriptor.apply]
  cases operator.resolve <;> rfl

/-- The calls on `q` that are given the operator write `text`, and a question mark exactly
if they bind a value. -/
structure Takes (q : Query κ) (operator : OperatorArg) (text : String) : Prop where
  filter (column : String) (value : Option Value) :
    let bound := if text ∈ Operator.unaryTexts then none else value
    q.apply (.filter (.given column operator value)) =
      .ok { q with
        descriptor.whereClause :=
          some (column ++ " " ++ text ++ if bound.isSome then " ?" else "")
        descriptor.whereParameters := q.descriptor.whereParameters ++ bound.toList }
  extend (connective : Connective) (column : String) (value : Option Value) {before : String}
      (hw : q.descriptor.whereClause = some before) :
    let bound := if text ∈ Operator.unaryTexts then none else value
    q.apply (.extend connective (.given column operator value)) =
      .ok { q with
        descriptor.whereClause :=
          some (before ++ " " ++ connective.text ++ " " ++
            (column ++ " " ++ text ++ if bound.isSome then " ?" else ""))
        descriptor.whereParameters := q.descriptor.whereParameters ++ bound.toList }
  on (left right : String) :
    q.apply (.on left operator right) =
      .ok { q with descriptor.onClause := some (left ++ " " ++ text ++ " " ++ right) }

theorem takes_of_resolve {text : String} (ho : operator.resolve = .ok ⟨text⟩) (q : Query κ) :
    q.Takes operator text := by
  have hunary : (⟨text⟩ : Operator).isUnary = decide (text ∈ Operator.unaryTexts) := rfl
  have hgiven : ∀ column value, (ConditionArg.given column operator value).resolve =
      .ok ⟨column, ⟨text⟩, if text ∈ Operator.unaryTexts then none else value⟩ := by
    intro column value
    rw [ConditionArg.resolve_given ho, hunary]
    simp only [decide_eq_true_eq]
  have hsql : ∀ (column : String) (bound : Option Value),
      Condition.sql ⟨column, ⟨text⟩, bound⟩ =
        column ++ " " ++ text ++ if bound.isSome then " ?" else "" :=
    fun column bound => Condition.sql_eq _
  constructor
  case filter =>
    intro column value bound
    rw [apply_filter, hgiven, ← hsql]
    rfl
  case extend =>
    intro connective column value before hw bound
    rw [apply_extend_of_some hw, hgiven, ← hsql]
    rfl
  case on =>
    intro left right
    rw [apply_on, ho]
    rfl

theorem apply_of_not_named {s : String} (hs : ¬ Operator.Named s)
    (ht : t.operator? = some (.spelled s)) (q : Query κ) :
    q.apply t = .error (.unknownOperator ⟨s⟩) ∨
      ∃ connective condition, t = .extend connective condition ∧
        q.descriptor.whereClause = none ∧
        q.apply t = .error (.misuse (.connectiveBeforeWhere connective)) := by
  cases t
  case on left operator right =>
    cases ht
    left
    rw [apply_on, OperatorArg.resolve_of_not_named hs]
    rfl
  case filter condition =>
    left
    rw [apply_filter, ConditionArg.resolve_of_not_named hs ht]
    rfl
  case extend connective condition =>
    cases hw : q.descriptor.whereClause with
    | none => exact .inr ⟨connective, condition, rfl, rfl, apply_extend_of_none hw _ _⟩
    | some before =>
        left
        rw [apply_extend_of_some hw, ConditionArg.resolve_of_not_named hs ht]
        rfl
  all_goals cases ht

/-! ## The same query -/

theorem toOption_mapError_map {ε ε' α β : Type} (f : ε → ε') (g : α → β) (x : Except ε α) :
    ((x.mapError f).map g).toOption = x.toOption.map g := by
  cases x <;> rfl

theorem toOption_apply_withOperator (ht : t.operator? = some operator)
    (h : operator'.resolve.toOption = operator.resolve.toOption) (q : Query κ) :
    (q.apply (t.withOperator operator')).toOption = (q.apply t).toOption := by
  cases t
  case on left written right =>
    cases ht
    rw [Transition.withOperator, apply_on, apply_on, toOption_mapError_map,
      toOption_mapError_map, h]
  case filter condition =>
    rw [Transition.withOperator, apply_filter, apply_filter, toOption_mapError_map,
      toOption_mapError_map, ConditionArg.toOption_resolve_withOperator ht h]
  case extend connective condition =>
    rw [Transition.withOperator]
    cases hw : q.descriptor.whereClause with
    | none => rw [apply_extend_of_none hw, apply_extend_of_none hw]
    | some before =>
        rw [apply_extend_of_some hw, apply_extend_of_some hw, toOption_mapError_map,
          toOption_mapError_map, ConditionArg.toOption_resolve_withOperator ht h]
  all_goals cases ht

theorem toOption_apply_of_respelled (h : t.Respelled u) (q : Query κ) :
    (q.apply u).toOption = (q.apply t).toOption := by
  cases h
  case same => rfl
  case spelled ht hs =>
    exact toOption_apply_withOperator ht (OperatorArg.toOption_resolve_congr hs) q

theorem toOption_apply_spellOut (ht : ∀ s, t.operator? = some (.spelled s) → Operator.Named s)
    (q : Query κ) : (q.apply t.spellOut).toOption = (q.apply t).toOption := by
  rw [Transition.spellOut]
  split
  · next s hs =>
      refine toOption_apply_withOperator hs ?_ q
      rw [OperatorArg.resolve_of_named (ht s hs)]
      rfl
  · rfl

/-- Calls that do the same, one for one, lead to the same query. -/
theorem toOption_chain_congr {ts us : List Transition}
    (h : List.Forall₂ (fun t u => ∀ q : Query κ, (q.apply u).toOption = (q.apply t).toOption) ts us)
    (q : Query κ) : (q.chain us).toOption = (q.chain ts).toOption := by
  have hbind : ∀ (x : Except ChainError (Query κ)) (f : Query κ → Except ChainError (Query κ)),
      (x >>= f).toOption = x.toOption.bind fun r => (f r).toOption :=
    fun x f => by cases x <;> rfl
  induction h generalizing q with
  | nil => rfl
  | cons hcall _ ih => simp only [chain_cons, hbind, hcall, ih]

theorem Reachable.of_toOption_chain {ts us : List Transition} (h : Reachable ts q)
    (heq : ∀ p : Query κ, (p.chain us).toOption = (p.chain ts).toOption) : Reachable us q := by
  obtain ⟨options, ho⟩ := reachable_iff.mp h
  refine reachable_iff.mpr ⟨options, ?_⟩
  have hsome := heq (.ofOptions options)
  rw [ho] at hsome
  cases hus : (Query.ofOptions options).chain us with
  | error e =>
      rw [hus] at hsome
      cases hsome
  | ok r =>
      rw [hus] at hsome
      cases hsome
      rfl

theorem Reachable.named {ts : List Transition} (h : Reachable ts q) (ht : t ∈ ts) {s : String}
    (hs : t.operator? = some (.spelled s)) : Operator.Named s := by
  have hresolves := h.resolves t ht
  by_contra hn
  cases t
  case on =>
    cases hs
    obtain ⟨o, ho⟩ := hresolves
    rw [OperatorArg.resolve_of_not_named hn] at ho
    cases ho
  case filter | extend =>
    obtain ⟨c, hc⟩ := hresolves
    rw [ConditionArg.resolve_of_not_named hn hs] at hc
    cases hc
  all_goals cases hs

/-- A string for an operator counts up to white space at its ends and case, and either it names
one of twenty-one texts or the call that is given it fails. The text it names, naming itself, is
all that it brings to the statement, and a question mark comes with it exactly if a value is
bound. Chains whose strings differ in white space and case only lead to the same query, and every
query is one to which calls lead that are given operators of the vocabulary and no strings. -/
theorem spelled_operators :
    Operator.vocabulary.length = 21 ∧
      (∀ front s back : String, (∀ c ∈ front.toList, Text.isBlank c = true) →
        (∀ c ∈ back.toList, Text.isBlank c = true) →
          Operator.normalize (front ++ s ++ back) = Operator.normalize s) ∧
      (∀ s s' : String, Text.upper s = Text.upper s' →
        Operator.normalize s = Operator.normalize s') ∧
      (∀ s, Operator.Named s →
        Operator.spelledText s ∈ Operator.vocabulary ∧
          (OperatorArg.spelled s).resolve = .ok ⟨Operator.spelledText s⟩ ∧
          (OperatorArg.spelled (Operator.spelledText s)).resolve =
            .ok ⟨Operator.spelledText s⟩ ∧
          ∀ q : Query κ, q.Takes (.spelled s) (Operator.spelledText s)) ∧
      (∀ s, ¬ Operator.Named s → ∀ (q : Query κ) (t : Transition),
        t.operator? = some (.spelled s) →
          q.apply t = .error (.unknownOperator ⟨s⟩) ∨
            ∃ connective condition, t = .extend connective condition ∧
              q.descriptor.whereClause = none ∧
              q.apply t = .error (.misuse (.connectiveBeforeWhere connective))) ∧
      (∀ (q : Query κ) (ts us : List Transition), List.Forall₂ Transition.Respelled ts us →
        (q.chain us).toOption = (q.chain ts).toOption) ∧
      ∀ (q : Query κ) (ts : List Transition), Reachable ts q →
        (∀ t ∈ ts, ∀ s, t.operator? = some (.spelled s) → Operator.Named s) ∧
          Reachable (ts.map Transition.spellOut) q := by
  refine ⟨rfl, fun _ _ _ hfront hback => Operator.normalize_padded hfront hback,
    fun _ _ h => Operator.normalize_of_upper h, ?named,
    fun _ hs q _ ht => apply_of_not_named hs ht q, ?respelled, ?spelledOut⟩
  case named =>
    intro s hs
    have hmem := Operator.spelledText_mem hs
    have hagain := OperatorArg.resolve_of_named (Operator.named_of_mem hmem)
    rw [Operator.spelledText_of_mem hmem] at hagain
    have hresolve := OperatorArg.resolve_of_named hs
    exact ⟨hmem, hresolve, hagain, takes_of_resolve hresolve⟩
  case respelled =>
    intro q ts us h
    exact toOption_chain_congr (h.imp fun _ _ => toOption_apply_of_respelled) q
  case spelledOut =>
    intro q ts h
    have hnamed : ∀ t ∈ ts, ∀ s, t.operator? = some (.spelled s) → Operator.Named s :=
      fun t ht s hs => h.named ht hs
    refine ⟨hnamed, h.of_toOption_chain (toOption_chain_congr ?_)⟩
    rw [List.forall₂_map_right_iff, List.forall₂_same]
    exact fun t ht => toOption_apply_spellOut (hnamed t ht)

/-- A dotless i, a long s and a space that is not ASCII: what is written is all ASCII, and the
same as for the strings without them. -/
theorem spelled_operators_like :
    let chainWith (like present equal : String) : List Transition :=
      [.fromTable "users", .join .left "posts", .on "users.id" (.spelled equal) "posts.author",
        .filter (.compare "name" (.spelled like) (.text "J%")),
        .extend .and (.compare "email" (.spelled present) (.text "dropped"))]
    let odd := chainWith "\u3000lıke " "iſ not null" " =="
    ∃ q : Query Unit, new.chain odd = .ok q ∧
      q.sql = "SELECT * FROM users LEFT JOIN posts ON users.id = posts.author " ++
        "WHERE name LIKE ? AND email IS NOT NULL" ∧
      q.parameters = [.text "J%"] ∧
      (new.chain (chainWith "LIKE" "Is Not Null" "==")).toOption = some q ∧
      Reachable (odd.map Transition.spellOut) q ∧
      q.apply (.filter (.ask "id" (.spelled "= 1 OR 1"))) =
        .error (.unknownOperator ⟨"= 1 OR 1"⟩) := by
  intro chainWith odd
  obtain ⟨-, -, -, -, hunnamed, hrespelled, hspelledOut⟩ := @spelled_operators Unit
  obtain ⟨q, hq, hsql, hparameters⟩ : ∃ q : Query Unit, new.chain odd = .ok q ∧
      q.sql = "SELECT * FROM users LEFT JOIN posts ON users.id = posts.author " ++
        "WHERE name LIKE ? AND email IS NOT NULL" ∧
      q.parameters = [.text "J%"] :=
    ⟨_, rfl, by decide, by decide⟩
  have hequal : Operator.normalize "==" = Operator.normalize " ==" := by decide +kernel
  have hlike : Operator.normalize "LIKE" = Operator.normalize "\u3000lıke " := by decide +kernel
  have hpresent : Operator.normalize "Is Not Null" = Operator.normalize "iſ not null" := by
    decide +kernel
  have hplain : List.Forall₂ Transition.Respelled odd (chainWith "LIKE" "Is Not Null" "==") := by
    refine .cons (.same _) (.cons (.same _) (.cons ?_ (.cons ?_ (.cons ?_ .nil))))
    · exact .spelled rfl hequal
    · exact .spelled rfl hlike
    · exact .spelled rfl hpresent
  have hsame := hrespelled new odd _ hplain
  rw [hq] at hsame
  have hreachable : Reachable odd q := reachable_iff.mpr ⟨{}, hq⟩
  refine ⟨q, hq, hsql, hparameters, hsame, (hspelledOut q odd hreachable).2, ?_⟩
  rcases hunnamed "= 1 OR 1" (by decide) q (.filter (.ask "id" (.spelled "= 1 OR 1"))) rfl with
    h | ⟨_, _, hextend, -⟩
  · exact h
  · cases hextend

end Query

end SqlChain
