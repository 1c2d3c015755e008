import SqlChain.Proofs.Grammar

/-!
# Terms of ORDER BY

A term that is written out is an identifier, perhaps with a direction behind it. The
direction is optional, and each of its words is a name like any other; so what a term is
read as depends on where its blanks are. This file says which texts are terms, in words
that know of no recogniser: with the blanks cut from its ends, a term is an identifier,
or it is an identifier, blanks and a direction.

A column and a direction come to the grammar as one text, with a blank between them. If
the column is blank, the blanks vanish and the direction stands where a column should.
That is accepted, and it is the only way in for what is no column.
-/

namespace SqlChain.Text

theorem trimList_eq_nil_iff {cs : List Char} :
    trimList cs = [] ↔ ∀ c ∈ cs, isBlank c = true := by
  have hnil : trimList cs = [] ↔ ∀ c ∈ skipBlanks cs, isBlank c = true :=
    List.rdropWhile_eq_nil_iff
  rw [hnil]
  constructor
  · intro h c hc
    exact (isBlank_or_mem_skipBlanks hc).elim id (h c)
  · intro h c hc
    exact h c ((List.dropWhile_suffix isBlank).mem hc)

/-- Nothing behind a text that is not blank is skipped. -/
theorem skipBlanks_append_of_not_blank {cs back : List Char}
    (h : ¬ ∀ c ∈ cs, isBlank c = true) : skipBlanks (cs ++ back) = skipBlanks cs ++ back := by
  have hempty : ¬ (cs.dropWhile isBlank).isEmpty = true := by
    rwa [List.isEmpty_iff, List.dropWhile_eq_nil_iff]
  exact List.dropWhile_append.trans (if_neg hempty)

theorem trimList_blanks_append {gap cs : List Char} (h : ∀ c ∈ gap, isBlank c = true) :
    trimList (gap ++ cs) = trimList cs := by
  have hskip : skipBlanks (gap ++ cs) = skipBlanks cs := List.dropWhile_append_of_pos h
  rw [trimList, trimList, hskip]

theorem trimList_append_of_blanks {cs gap : List Char} (h : ∀ c ∈ gap, isBlank c = true) :
    trimList (cs ++ gap) = trimList cs := by
  by_cases hcs : ∀ c ∈ cs, isBlank c = true
  · rw [trimList_blanks_append hcs, trimList_eq_nil_iff.mpr h, trimList_eq_nil_iff.mpr hcs]
  · have hreverse : skipBlanks (gap.reverse ++ (skipBlanks cs).reverse) =
        skipBlanks (skipBlanks cs).reverse :=
      List.dropWhile_append_of_pos fun c hc => h c (List.mem_reverse.mp hc)
    rw [trimList, trimList, skipBlanks_append_of_not_blank hcs, List.reverse_append, hreverse]

theorem trimList_eq_self {word : List Char} (h : ∀ c ∈ word, isBlank c = false) :
    trimList word = word := by
  have hskip : ∀ cs : List Char, (∀ c ∈ cs, isBlank c = false) → skipBlanks cs = cs := by
    intro cs hcs
    cases cs with
    | nil => rfl
    | cons c rest => exact List.dropWhile_cons_of_neg (by simp [hcs c List.mem_cons_self])
  rw [trimList, hskip word h, hskip word.reverse fun c hc => h c (List.mem_reverse.mp hc),
    List.reverse_reverse]

/-- Between the first character that is no blank and a word at the end, nothing is cut. -/
theorem trimList_append_of_not_blank {cs word : List Char}
    (hcs : ¬ ∀ c ∈ cs, isBlank c = true) (hne : word ≠ []) (hword : ∀ c ∈ word, isBlank c = false)
    (gap : List Char) : trimList (cs ++ (gap ++ word)) = skipBlanks cs ++ (gap ++ word) := by
  have hlast : ∀ h : skipBlanks (cs ++ (gap ++ word)) ≠ [],
      ¬ isBlank ((skipBlanks (cs ++ (gap ++ word))).getLast h) = true := by
    rw [skipBlanks_append_of_not_blank hcs, ← List.append_assoc]
    intro h
    rw [List.getLast_append_of_ne_nil _ hne, hword _ (List.getLast_mem hne)]
    exact Bool.false_ne_true
  have htrim : trimList (cs ++ (gap ++ word)) = skipBlanks (cs ++ (gap ++ word)) :=
    List.rdropWhile_eq_self_iff.mpr hlast
  rw [htrim, skipBlanks_append_of_not_blank hcs]

/-- At the end of a trimmed text there are no blanks to cut. -/
theorem trimList_of_suffix {cs left : List Char} (hs : left <:+ trimList cs) :
    trimList left = skipBlanks left := by
  have happend := trimList_append_blanks left
  have hsuffix : (skipBlanks left).rtakeWhile isBlank <:+ trimList cs := by
    refine List.IsSuffix.trans ?_ hs
    exact (List.rtakeWhile_suffix isBlank _).trans (List.dropWhile_suffix isBlank)
  have hnil := eq_nil_of_suffix_trimList hsuffix fun _ => List.mem_rtakeWhile_imp
  rwa [hnil, List.append_nil] at happend

end SqlChain.Text

namespace SqlChain.Identifier

open Text (isBlank skipBlanks trimList)

/-! ## Directions -/

/-- The character is a capital letter or differs from it in case only. Besides its small
letter each of two letters has one beyond ASCII, the long s and the Kelvin sign. -/
def SameLetter (letter c : Char) : Prop :=
  c = letter ∨ c = letter.toLower ∨ (letter = 'S' ∧ c = 'ſ') ∨ (letter = 'K' ∧ c = '\u212a')

/-- The text is the word, which is in capitals, letter by letter in any case. -/
def Spells (word : String) (cs : List Char) : Prop := List.Forall₂ SameLetter word.toList cs

theorem toNat_toLower (c : Char) :
    c.toLower.toNat = if 65 ≤ c.toNat ∧ c.toNat ≤ 90 then c.toNat + 32 else c.toNat := by
  by_cases hupper : 65 ≤ c.toNat ∧ c.toNat ≤ 90
  · have hlower : c.toLower.val = c.val + 32 := congrArg Char.val (dif_pos hupper)
    have hword : c.val.toNat + 32 < 2 ^ 32 := by
      have : c.val.toNat ≤ 90 := hupper.2
      omega
    rw [if_pos hupper]
    exact (congrArg UInt32.toNat hlower).trans
      ((UInt32.toNat_add ..).trans (Nat.mod_eq_of_lt hword))
  · have hsame : c.toLower = c := dif_neg hupper
    rw [if_neg hupper, hsame]

-- Not for a K: the Kelvin sign is left as it is, since no direction has one.
theorem foldCase_eq_iff {letter c : Char} (hl : letter.isUpper = true) (hk : letter ≠ 'K') :
    foldCase c = letter.toLower ↔ SameLetter letter c := by
  have hupper : 65 ≤ letter.toNat ∧ letter.toNat ≤ 90 := of_decide_eq_true hl
  have hcodes : 'S'.toNat = 83 ∧ 's'.toNat = 115 ∧ 'ſ'.toNat = 383 := ⟨rfl, rfl, rfl⟩
  obtain ⟨hcapital, hsmall, hlong⟩ := hcodes
  simp only [SameLetter, foldCase, ← Char.toNat_inj, toNat_toLower, hk, if_pos hupper, hcapital,
    hlong, false_and, or_false]
  split
  · omega
  · rw [toNat_toLower]
    split <;> omega

theorem map_foldCase_eq_iff {letters cs : List Char}
    (hl : ∀ letter ∈ letters, letter.isUpper = true) (hk : 'K' ∉ letters) :
    cs.map foldCase = letters.map Char.toLower ↔ List.Forall₂ SameLetter letters cs := by
  induction letters generalizing cs with
  | nil => simp
  | cons letter letters ih =>
      cases cs with
      | nil => simp
      | cons c cs =>
          obtain ⟨hletter, hletters⟩ := List.forall_mem_cons.mp hl
          have hne : letter ≠ 'K' := fun h => hk (h ▸ List.mem_cons_self)
          have hrest : 'K' ∉ letters := fun h => hk (List.mem_cons_of_mem _ h)
          rw [List.map_cons, List.map_cons, List.cons.injEq, List.forall₂_cons, ih hletters hrest,
            foldCase_eq_iff hletter hne]

theorem isUpper_of_mem_text (direction : Direction) :
    ∀ letter ∈ direction.text.toList, letter.isUpper = true :=
  List.all_eq_true.mp (by cases direction <;> decide)

theorem isDirection_iff {cs : List Char} :
    isDirection cs = true ↔ Spells "ASC" cs ∨ Spells "DESC" cs := by
  have hasc : ∀ letter ∈ "ASC".toList, letter.isUpper = true := isUpper_of_mem_text .asc
  have hdesc : ∀ letter ∈ "DESC".toList, letter.isUpper = true := isUpper_of_mem_text .desc
  rw [isDirection, Bool.or_eq_true, beq_iff_eq, beq_iff_eq, Spells, Spells,
    ← map_foldCase_eq_iff hasc (by decide), ← map_foldCase_eq_iff hdesc (by decide)]
  rfl

theorem isBlank_of_sameLetter {letter c : Char} (hl : letter.isUpper = true)
    (h : SameLetter letter c) : isBlank c = false := by
  have hupper : 65 ≤ letter.toNat ∧ letter.toNat ≤ 90 := of_decide_eq_true hl
  have hcode : c.toNat = letter.toNat ∨ c.toNat = letter.toNat + 32 ∨ c.toNat = 383 ∨
      c.toNat = 8490 := by
    rcases h with rfl | rfl | ⟨-, rfl⟩ | ⟨-, rfl⟩
    · exact .inl rfl
    · exact .inr (.inl ((toNat_toLower letter).trans (if_pos hupper)))
    · exact .inr (.inr (.inl rfl))
    · exact .inr (.inr (.inr rfl))
  simp only [isBlank, Bool.or_eq_false_iff, Bool.and_eq_false_iff, decide_eq_false_iff_not,
    beq_eq_false_iff_ne]
  omega

theorem isBlank_of_forall₂_sameLetter {letters cs : List Char}
    (hl : ∀ letter ∈ letters, letter.isUpper = true) (h : List.Forall₂ SameLetter letters cs) :
    ∀ c ∈ cs, isBlank c = false := by
  induction h with
  | nil => exact fun c hc => absurd hc List.not_mem_nil
  | cons hletter _ ih =>
      obtain ⟨hupper, hrest⟩ := List.forall_mem_cons.mp hl
      exact List.forall_mem_cons.mpr ⟨isBlank_of_sameLetter hupper hletter, ih hrest⟩

theorem isBlank_of_isDirection {cs : List Char} (h : isDirection cs = true) :
    ∀ c ∈ cs, isBlank c = false := by
  rcases isDirection_iff.mp h with h | h
  · exact isBlank_of_forall₂_sameLetter (isUpper_of_mem_text .asc) h
  · exact isBlank_of_forall₂_sameLetter (isUpper_of_mem_text .desc) h

/-! ## Terms -/

/-- The text is an identifier, or an identifier and behind blanks a direction. -/
def SortingTerm (s : String) : Prop :=
  isIdentifier s = true ∨
    ∃ name gap word : String, s = name ++ gap ++ word ∧ isIdentifier name = true ∧ gap ≠ "" ∧
      (∀ c ∈ gap.toList, isBlank c = true) ∧
      (Spells "ASC" word.toList ∨ Spells "DESC" word.toList)

/-- What may stand behind the identifier of a trimmed term. -/
theorem sortingTerm_iff {s : String} :
    SortingTerm s ↔
      ∃ left, afterIdentifier? s.toList = some left ∧
        (left = [] ∨ ∃ gap word, left = gap ++ word ∧ gap ≠ [] ∧ (∀ c ∈ gap, isBlank c = true) ∧
          isDirection word = true) := by
  constructor
  · rintro (h | ⟨name, gap, word, rfl, hname, hne, hgap, hword⟩)
    · exact ⟨[], beq_iff_eq.mp h, .inl rfl⟩
    · have hne : gap.toList ≠ [] := fun hnil => hne (String.toList_eq_nil_iff.mp hnil)
      have hstop : ∀ c ∈ (gap.toList ++ word.toList).head?, isIdentifierPart c = false := by
        intro c hc
        rw [List.head?_append_of_ne_nil _ hne] at hc
        exact isIdentifierPart_of_isBlank (hgap c (List.mem_of_mem_head? hc))
      refine ⟨gap.toList ++ word.toList, ?_, .inr ⟨gap.toList, word.toList, rfl, hne, hgap,
        isDirection_iff.mpr hword⟩⟩
      rw [String.toList_append, String.toList_append, List.append_assoc,
        afterIdentifier?_append hstop, beq_iff_eq.mp hname]
      rfl
  · rintro ⟨left, hleft, rfl | ⟨gap, word, rfl, hne, hgap, hword⟩⟩
    · exact .inl (beq_iff_eq.mpr hleft)
    · obtain ⟨name, hlist, hname⟩ := exists_names_of_afterIdentifier? hleft
      refine .inr ⟨name, String.ofList gap, String.ofList word, ?_, isIdentifier_iff.mpr hname,
        ?_, ?_, ?_⟩
      · rw [← String.toList_inj, hlist]
        simp
      · rwa [Ne, ← String.toList_eq_nil_iff, String.toList_ofList]
      · rwa [String.toList_ofList]
      · rw [String.toList_ofList]
        exact isDirection_iff.mp hword

theorem isOrderTerm_iff_of_afterIdentifier? {s : String} {rest : List Char}
    (h : afterIdentifier? (skipBlanks s.toList) = some rest) :
    isOrderTerm s = true ↔
      trimList rest = [] ∨
        (∃ c ∈ rest.head?, isBlank c = true) ∧ isDirection (trimList rest) = true := by
  rw [isOrderTerm, h]
  cases rest with
  | nil => exact iff_of_true rfl (.inl rfl)
  | cons c others =>
      by_cases hc : isBlank c = true
      · have hfirst : ∀ c' ∈ [c], isBlank c' = true := List.forall_mem_singleton.mpr hc
        have htrim : trimList (c :: others) = trimList others := Text.trimList_blanks_append hfirst
        simp [hc, htrim]
      · have htrim : trimList (c :: others) ≠ [] :=
          fun hnil => hc (Text.trimList_eq_nil_iff.mp hnil c List.mem_cons_self)
        simp [hc, htrim]

/-- At the end of a trimmed text, the recogniser asks for blanks and a direction. -/
theorem goesOn_iff_of_suffix {cs left blanks : List Char} (hs : left <:+ trimList cs) :
    (trimList left = [] ∨
        (∃ c ∈ (left ++ blanks).head?, isBlank c = true) ∧ isDirection (trimList left) = true) ↔
      left = [] ∨ ∃ gap word, left = gap ++ word ∧ gap ≠ [] ∧ (∀ c ∈ gap, isBlank c = true) ∧
        isDirection word = true := by
  cases left with
  | nil => exact iff_of_true (.inl rfl) (.inl rfl)
  | cons c others =>
      have hne : trimList (c :: others) ≠ [] := fun hnil =>
        absurd (Text.eq_nil_of_suffix_trimList hs (Text.trimList_eq_nil_iff.mp hnil))
          (List.cons_ne_nil c others)
      simp only [hne, List.cons_ne_nil, false_or, List.cons_append, List.head?_cons,
        Option.mem_some_iff, exists_eq_left']
      constructor
      · rintro ⟨hc, hdirection⟩
        refine ⟨(c :: others).takeWhile isBlank, skipBlanks (c :: others),
          List.takeWhile_append_dropWhile.symm, ?_, List.all_eq_true.mp List.all_takeWhile, ?_⟩
        · rw [List.takeWhile_cons_of_pos hc]
          exact List.cons_ne_nil _ _
        · rwa [← Text.trimList_of_suffix hs]
      · rintro ⟨gap, word, hlist, hgap, hblank, hword⟩
        obtain ⟨first, gap, rfl⟩ := List.exists_cons_of_ne_nil hgap
        obtain ⟨rfl, -⟩ := List.cons.inj hlist
        refine ⟨hblank c List.mem_cons_self, ?_⟩
        rwa [hlist, Text.trimList_blanks_append hblank,
          Text.trimList_eq_self (isBlank_of_isDirection hword)]

/-- A term, with the blanks cut from its ends, is an identifier with or without a
direction. -/
theorem isOrderTerm_iff {s : String} : isOrderTerm s = true ↔ SortingTerm (Text.trim s) := by
  rw [sortingTerm_iff, Text.trim, String.toList_ofList]
  obtain ⟨blanks, hblanks, heq⟩ := afterIdentifier?_skipBlanks s.toList
  cases hleft : afterIdentifier? (trimList s.toList) with
  | none =>
      rw [hleft] at heq
      refine iff_of_false ?_ (by simp)
      rw [isOrderTerm, heq]
      exact Bool.false_ne_true
  | some left =>
      -- What is cut off at the end comes back as blanks behind what is left.
      rw [hleft] at heq
      rw [isOrderTerm_iff_of_afterIdentifier? heq, Text.trimList_append_of_blanks hblanks,
        goesOn_iff_of_suffix (suffix_of_afterIdentifier? hleft)]
      simp only [Option.some.injEq, exists_eq_left']

/-! ## Columns with a direction -/

theorem isDirection_text (direction : Direction) : isDirection direction.text.toList = true := by
  cases direction <;> decide

theorem isIdentifier_text (direction : Direction) : isIdentifier direction.text = true := by
  cases direction <;> decide

theorem toList_column (name : String) (direction : Direction) :
    (OrderTerm.column name direction).text.toList =
      name.toList ++ ' ' :: direction.text.toList := by
  rw [OrderTerm.text, String.toList_append, String.toList_append, List.append_assoc]
  rfl

theorem trimList_direction {cs : List Char} (h : ∀ c ∈ cs, isBlank c = true)
    (direction : Direction) :
    trimList (cs ++ ' ' :: direction.text.toList) = direction.text.toList := by
  have hblank : ∀ c ∈ cs ++ [' '], isBlank c = true :=
    List.forall_mem_append.mpr ⟨h, List.forall_mem_singleton.mpr rfl⟩
  rw [List.append_cons, Text.trimList_blanks_append hblank,
    Text.trimList_eq_self (isBlank_of_isDirection (isDirection_text direction))]

theorem trim_column_of_blank {name : String} (h : ∀ c ∈ name.toList, isBlank c = true)
    (direction : Direction) :
    Text.trim (OrderTerm.column name direction).text = direction.text := by
  rw [Text.trim, toList_column, trimList_direction h, String.ofList_toList]

/-- Behind an identifier, blanks and a direction are all that a term may have. -/
theorem goesOn_direction_iff {rest : List Char} {direction : Direction} :
    (trimList (rest ++ ' ' :: direction.text.toList) = [] ∨
        (∃ c ∈ (rest ++ ' ' :: direction.text.toList).head?, isBlank c = true) ∧
          isDirection (trimList (rest ++ ' ' :: direction.text.toList)) = true) ↔
      skipBlanks rest = [] := by
  have hdirection := isDirection_text direction
  by_cases hrest : ∀ c ∈ rest, isBlank c = true
  · refine iff_of_true (.inr ⟨?_, ?_⟩) (List.dropWhile_eq_nil_iff.mpr hrest)
    · cases rest with
      | nil => exact ⟨' ', rfl, by decide⟩
      | cons c others => exact ⟨c, rfl, hrest c List.mem_cons_self⟩
    · rwa [trimList_direction hrest]
  · -- What is no blank keeps the blank behind it, and no direction has one.
    have hne : direction.text.toList ≠ [] := by cases direction <;> decide
    have htrim : trimList (rest ++ ' ' :: direction.text.toList) =
        skipBlanks rest ++ ' ' :: direction.text.toList :=
      Text.trimList_append_of_not_blank hrest hne (isBlank_of_isDirection hdirection) [' ']
    rw [htrim]
    refine iff_of_false ?_ fun hnil => hrest (List.dropWhile_eq_nil_iff.mp hnil)
    rintro (hnil | ⟨-, hword⟩)
    · exact List.append_ne_nil_of_right_ne_nil _ (List.cons_ne_nil _ _) hnil
    · have hgap := isBlank_of_isDirection hword ' '
        (List.mem_append_right _ List.mem_cons_self)
      exact absurd hgap (by decide)

/-- A column with a direction is a term if the column is an identifier, blanks apart, or
if it is blank. -/
theorem isOrderTerm_column_iff {name : String} {direction : Direction} :
    isOrderTerm (OrderTerm.column name direction).text = true ↔
      isIdentifier (Text.trim name) = true ∨ ∀ c ∈ name.toList, isBlank c = true := by
  by_cases hblank : ∀ c ∈ name.toList, isBlank c = true
  · refine iff_of_true ?_ (.inr hblank)
    rw [isOrderTerm_iff, trim_column_of_blank hblank]
    exact .inl (isIdentifier_text direction)
  · rw [or_iff_left hblank]
    have hitem : isIdentifier (Text.trim name) = true ↔ IsItem name.toList := by
      rw [isItem_iff, String.ofList_toList]
    have hstop : ∀ c ∈ (' ' :: direction.text.toList).head?, isIdentifierPart c = false := by
      rintro c ⟨⟩
      decide
    have hafter : afterIdentifier? (skipBlanks (OrderTerm.column name direction).text.toList) =
        (afterIdentifier? (skipBlanks name.toList)).map (· ++ ' ' :: direction.text.toList) := by
      rw [toList_column, Text.skipBlanks_append_of_not_blank hblank, afterIdentifier?_append hstop]
    rw [hitem]
    cases hname : afterIdentifier? (skipBlanks name.toList) with
    | none =>
        rw [hname] at hafter
        refine iff_of_false ?_ (not_isItem_of_afterIdentifier? hname)
        rw [isOrderTerm, hafter]
        exact Bool.false_ne_true
    | some rest =>
        rw [hname] at hafter
        rw [isOrderTerm_iff_of_afterIdentifier? hafter, isItem_iff_of_afterIdentifier? hname]
        exact goesOn_direction_iff

end SqlChain.Identifier

namespace SqlChain

open Identifier (SortingTerm isIdentifier isOrderTerm)

/-- Where nothing is wrong but perhaps the sorting, its terms decide. -/
theorem Descriptor.violation?_orderBy {d : Descriptor} (hs : d.clauseStyle = .inline)
    (hv : { d with orderBy := [] }.IsValid) (terms : List String) :
    { d with orderBy := terms }.violation? =
      terms.findSome? (checkText .orderBy isOrderTerm) := by
  obtain ⟨hcomplete, hinline⟩ := isValid_iff.mp hv
  have hnow : { d with orderBy := terms }.Complete :=
    ⟨hcomplete.selection, hcomplete.assignments, hcomplete.guard, hcomplete.placeholders,
      hcomplete.subject⟩
  have hbefore := checkInline_of_inline (d := { d with orderBy := [] }) hs
  obtain ⟨hgroupBy, hrest⟩ := Option.or_eq_none_iff.mp (hbefore.symm.trans hinline)
  obtain ⟨hhaving, -⟩ := Option.or_eq_none_iff.mp hrest
  have hnowInline : { d with orderBy := terms }.checkInline =
      (d.groupBy.bind (checkText .groupBy Identifier.isIdentifierList)).or
        ((d.having.bind (checkText .having Identifier.isHavingText)).or
          (terms.findSome? (checkText .orderBy isOrderTerm))) := checkInline_of_inline hs
  rw [hnow.violation?_eq, hnowInline, hgroupBy, hhaving, Option.none_or, Option.none_or]

theorem Descriptor.isValid_orderBy_iff {d : Descriptor} (hs : d.clauseStyle = .inline)
    (hv : { d with orderBy := [] }.IsValid) {terms : List String} :
    { d with orderBy := terms }.IsValid ↔ ∀ s ∈ terms, isOrderTerm s = true := by
  rw [IsValid, violation?_orderBy hs hv, List.findSome?_eq_none_iff]
  exact forall₂_congr fun s _ => checkText_eq_none_iff

namespace Query

variable {κ : Type}

/-- One more term, on a query that is valid and writes its clauses out. -/
theorem apply_orderBy {q : Query κ} (hs : q.descriptor.clauseStyle = .inline)
    (hv : q.descriptor.IsValid) (term : OrderTerm) :
    ∃ r, q.apply (.orderBy term) = .ok r ∧
      (r.descriptor.IsValid ↔ isOrderTerm term.text = true) ∧
      (¬ r.descriptor.IsValid → r.violation? = some (.unsafeClause .orderBy term.text)) := by
  have hverdict := hv.violation?_of_becomes (.orderBy term) trivial
  rw [if_pos hs, Transition.objection?] at hverdict
  have haccepted : Descriptor.IsValid { q.descriptor with
      orderBy := q.descriptor.orderBy ++ [term.text] } ↔ isOrderTerm term.text = true := by
    rw [Descriptor.IsValid, hverdict, Descriptor.checkText_eq_none_iff]
  exact ⟨_, rfl, haccepted, fun hrefused => hverdict.trans (if_neg (haccepted.not.mp hrefused))⟩

/-- Which terms of ORDER BY are accepted where they are written out and nothing else is
wrong: each that is an identifier, with or without a direction, when the blanks are cut
from its ends. The first that is not is told. A column that comes with a direction is
accepted if it is an identifier itself, blanks apart, and if it is blank, for then the
direction is read as the column. -/
theorem sorting_grammar :
    (∀ d : Descriptor, d.clauseStyle = .inline → { d with orderBy := [] }.IsValid →
        ∀ terms,
          ({ d with orderBy := terms }.IsValid ↔ ∀ s ∈ terms, SortingTerm (Text.trim s)) ∧
          ∀ before s after, terms = before ++ s :: after →
            (∀ t ∈ before, SortingTerm (Text.trim t)) → ¬ SortingTerm (Text.trim s) →
            { d with orderBy := terms }.violation? = some (.unsafeClause .orderBy s)) ∧
      ∀ q : Query κ, q.descriptor.clauseStyle = .inline → q.descriptor.IsValid →
        (∀ s, ∃ r, q.apply (.orderBy (.written s)) = .ok r ∧
          (r.descriptor.IsValid ↔ SortingTerm (Text.trim s)) ∧
          (¬ r.descriptor.IsValid → r.violation? = some (.unsafeClause .orderBy s))) ∧
        ∀ name direction, ∃ r, q.apply (.orderBy (.column name direction)) = .ok r ∧
          (r.descriptor.IsValid ↔
            isIdentifier (Text.trim name) = true ∨ ∀ c ∈ name.toList, Text.isBlank c = true) ∧
          ((∀ c ∈ name.toList, Text.isBlank c = true) →
            Text.trim (name ++ " " ++ direction.text) = direction.text ∧
              isIdentifier direction.text = true) ∧
          (¬ r.descriptor.IsValid →
            r.violation? = some (.unsafeClause .orderBy (name ++ " " ++ direction.text))) := by
  refine ⟨fun d hs hv terms => ⟨?_, ?_⟩, fun q hs hv => ⟨fun s => ?_, fun name direction => ?_⟩⟩
  · rw [Descriptor.isValid_orderBy_iff hs hv]
    exact forall₂_congr fun s _ => Identifier.isOrderTerm_iff
  · rintro before s after rfl hbefore hrefused
    rw [Descriptor.violation?_orderBy hs hv, List.findSome?_eq_some_iff]
    refine ⟨before, s, after, rfl, ?_, fun t ht => ?_⟩
    · exact if_neg fun hterm => hrefused (Identifier.isOrderTerm_iff.mp hterm)
    · exact if_pos (Identifier.isOrderTerm_iff.mpr (hbefore t ht))
  · obtain ⟨r, hr, haccepted, htold⟩ := apply_orderBy hs hv (.written s)
    exact ⟨r, hr, haccepted.trans Identifier.isOrderTerm_iff, htold⟩
  · obtain ⟨r, hr, haccepted, htold⟩ := apply_orderBy hs hv (.column name direction)
    refine ⟨r, hr, haccepted.trans Identifier.isOrderTerm_column_iff, fun hblank => ?_, htold⟩
    exact ⟨Identifier.trim_column_of_blank hblank direction,
      Identifier.isIdentifier_text direction⟩

/-- A long s will do for an s, and any blanks for a blank; but a direction is a word of its
own, and a column is one name. -/
theorem sorting_grammar_posts :
    let q : Query Unit := ofOptions { table := some "posts", clauseStyle := .inline }
    let terms := [" posts.day\u3000deſc\n", "desc", "author Asc"]
    { q.descriptor with orderBy := terms }.IsValid ∧
      { q.descriptor with orderBy := terms ++ "author ascending" :: terms }.violation? =
        some (.unsafeClause .orderBy "author ascending") ∧
      ∃ r p, q.apply (.orderBy (.column "\u00a0" .desc)) = .ok r ∧ r.descriptor.IsValid ∧
        q.apply (.orderBy (.column "posts day" .asc)) = .ok p ∧
        p.violation? = some (.unsafeClause .orderBy "posts day ASC") := by
  intro q terms
  obtain ⟨hlist, hcalls⟩ := sorting_grammar (κ := Unit)
  have hv : q.descriptor.IsValid := by decide
  obtain ⟨-, hcolumn⟩ := hcalls q rfl hv
  have hterms : ∀ s ∈ terms, SortingTerm (Text.trim s) := by
    simp only [terms, List.forall_mem_cons, ← Identifier.isOrderTerm_iff]
    decide
  have hrefused : ¬ SortingTerm (Text.trim "author ascending") := by
    rw [← Identifier.isOrderTerm_iff]
    decide
  obtain ⟨hvalid, -⟩ := hlist q.descriptor rfl hv terms
  obtain ⟨-, hfirst⟩ := hlist q.descriptor rfl hv (terms ++ "author ascending" :: terms)
  obtain ⟨r, hr, hblank, -⟩ := hcolumn "\u00a0" .desc
  obtain ⟨p, hp, hspaced, -, htold⟩ := hcolumn "posts day" .asc
  refine ⟨hvalid.mpr hterms, hfirst terms _ terms rfl hterms hrefused, r, p, hr,
    hblank.mpr (.inr (List.all_eq_true.mp (by decide))), hp, htold ?_⟩
  rw [hspaced]
  rintro (hname | hspace)
  · exact absurd hname (by decide)
  · exact absurd (hspace 'p' (by decide)) (by decide)

end Query

end SqlChain
