import SqlChain.Proofs.Placeholders

/-!
# Text that is written out

Under the inline style what a caller says of grouping and sorting becomes part of
the statement. Three grammars stand in the way of an injection, one a clause, and
this file says what they are good for: none of them lets a character through that
could end a text, start a comment, separate statements or take a value. Since no
character does, no two neighbours do, and it does not matter that the compiler
puts the entries next to one another.

A list of terms has one more seam, the comma. No term has one, so a reader who parts
the list at its separators gets back the terms that went in. The reader here is the
splitter of the standard library.
-/

namespace SqlChain

/-! ## Inert text -/

/-- The characters that could make more of a text than names, numbers and
comparisons: quotes and brackets, separators, what comments start with, the marks of
values, and the operators that no expression here needs. -/
def Text.metacharacters : List Char :=
  -- The three quotes and the braces are given by their codes.
  ['\x27', '\x22', '\x60', '[', ']', '\x7b', '\x7d', ';', '-', '/', '\\', '?', ':', '@', '$',
    '#', '|', '&', '~', '^']

/-- The text has none of these characters. -/
def Text.Inert (s : String) : Prop := ∀ c ∈ s.toList, c ∉ metacharacters

-- Not found by inference, which would go through all characters there are.
instance (s : String) : Decidable (Text.Inert s) := List.decidableBAll _ _

namespace Text

theorem forall_mem_append_iff {P : Char → Prop} {s t : String} :
    (∀ c ∈ (s ++ t).toList, P c) ↔ (∀ c ∈ s.toList, P c) ∧ ∀ c ∈ t.toList, P c := by
  rw [String.toList_append, List.forall_mem_append]

/-- Joining adds the characters of the separator and no others. -/
theorem forall_mem_listing_iff {P : Char → Prop} (hsep : ∀ c ∈ ", ".toList, P c)
    {items : List String} :
    (∀ c ∈ (listing items).toList, P c) ↔ ∀ item ∈ items, ∀ c ∈ item.toList, P c := by
  induction items with
  | nil => simp [listing]
  | cons item rest ih =>
      cases rest with
      | nil => rw [listing, List.forall_mem_singleton]
      | cons next rest =>
          rw [listing_cons_cons, forall_mem_append_iff, forall_mem_append_iff, and_iff_left hsep,
            ih]
          exact (List.forall_mem_cons (p := fun s : String => ∀ c ∈ s.toList, P c)).symm

/-- Text in an alphabet without such characters is inert. -/
theorem inert_of_alphabet {P : Char → Bool} {s : String}
    (hP : metacharacters.any P = false) (h : ∀ {c}, c ∈ s.toList → P c = true) : Inert s := by
  intro c hc hm
  exact List.any_eq_false.mp hP c hm (h hc)

/-- A word with one of the characters does not occur, within an entry or across. -/
theorem Inert.not_isInfix {s : String} (h : Inert s) {word : List Char} {c : Char}
    (hc : c ∈ word) (hm : c ∈ metacharacters) : ¬ word <:+: s.toList :=
  fun hi => h c (hi.subset hc) hm

theorem Inert.placeholders_eq_zero {s : String} (h : Inert s) : placeholders s = 0 :=
  placeholders_eq_zero_iff.mpr fun hm => h '?' hm (by decide)

/-! ## Reading a list back -/

open String.Slice.Pattern.Model

/-- From a place on where no comma stands, the separator is not found. -/
theorem not_matchesAt_of_comma_not_mem {s : String.Slice} {p stop : s.Pos}
    {front item back : String} (hp : p.Splits front (item ++ back))
    (hstop : stop.Splits (front ++ item) back) (hitem : ',' ∉ item.toList) {x : s.Pos}
    (hpx : p ≤ x) (hx : x < stop) : ¬ MatchesAt ", " x := by
  intro hmatch
  obtain ⟨before, after, hsplits⟩ := ForwardStringSearcher.matchesAt_iff_splits.mp hmatch
  obtain ⟨passed, hbefore, -⟩ := (hp.le_iff_exists_eq_append hsplits).mp hpx
  obtain ⟨left, hne, hfront, hmark⟩ := (hsplits.lt_iff_exists_eq_append hstop).mp hx
  -- What is left of the item is not empty, so it starts with the comma.
  have hcomma : ',' ∈ left.toList := by
    have hlist := congrArg String.toList hmark
    rw [String.toList_append, String.toList_append] at hlist
    cases hl : left.toList with
    | nil => exact absurd (String.toList_eq_nil_iff.mp hl) hne
    | cons c rest =>
        rw [hl] at hlist
        exact (List.cons.inj hlist).1 ▸ List.mem_cons_self
  have hparts : item = passed ++ left := by
    refine (String.append_right_inj front).mp ?_
    rw [hfront, hbefore, String.append_assoc]
  rw [hparts, String.toList_append] at hitem
  exact hitem (List.mem_append_right _ hcomma)

/-- The part of a slice between two places. -/
theorem copy_subslice_of_splits {s : String.Slice} {p stop : s.Pos} {front item back : String}
    (hp : p.Splits front (item ++ back)) (hstop : stop.Splits (front ++ item) back)
    (hle : p ≤ stop) : (s.subslice p stop hle).toSlice.copy = item :=
  (String.Slice.copy_slice_eq_iff_splits.mpr ⟨front, back, hp, hstop⟩).2

/-- The splitter, at the start of an item, goes to the end of it. -/
theorem split_eq_of_item [StrictPatternModel ", "] {s : String.Slice} {p stop : s.Pos}
    {front item back : String} (hp : p.Splits front (item ++ back))
    (hstop : stop.Splits (front ++ item) back) (hitem : ',' ∉ item.toList) :
    ∃ hle : p ≤ stop, String.Slice.Pattern.Model.split ", " p p (Std.le_refl p) =
      String.Slice.Pattern.Model.split ", " p stop hle :=
  have hle : p ≤ stop := (hp.le_iff_exists_eq_append hstop).mpr ⟨item, rfl, rfl⟩
  ⟨hle, split_eq_of_not_matchesAt stop hle fun _ hpx hx =>
    not_matchesAt_of_comma_not_mem hp hstop hitem hpx hx⟩

theorem map_copy_split [StrictPatternModel ", "] {items : List String}
    (hne : items ≠ []) (hitems : ∀ item ∈ items, ',' ∉ item.toList) {s : String.Slice}
    {p : s.Pos} {front : String} (hp : p.Splits front (listing items)) :
    (String.Slice.Pattern.Model.split ", " p p (Std.le_refl p)).map
      (fun part => part.toSlice.copy) = items := by
  -- The splitter has parted what is in front of `p` and stands where the items start.
  induction items generalizing p front with
  | nil => exact absurd rfl hne
  | cons item rest ih =>
      have hitem : ',' ∉ item.toList := hitems item List.mem_cons_self
      cases rest with
      | nil =>
          have hp : p.Splits front (item ++ "") := by rwa [String.append_empty]
          have hstop : s.endPos.Splits (front ++ item) "" :=
            String.Slice.splits_endPos_iff.mpr ⟨by rw [hp.eq_append, String.append_empty], rfl⟩
          obtain ⟨hle, hsplit⟩ := split_eq_of_item hp hstop hitem
          rw [hsplit, split_endPos, List.map_singleton, copy_subslice_of_splits hp hstop]
      | cons next rest =>
          have hp : p.Splits front (item ++ (", " ++ listing (next :: rest))) := by
            rwa [listing_cons_cons, String.append_assoc] at hp
          have hstop := hp.splits_rotateRight
          have hnext := hstop.splits_rotateRight
          obtain ⟨hle, hsplit⟩ := split_eq_of_item hp hstop hitem
          have hmatch : IsLongestMatchAt ", " hp.rotateRight hstop.rotateRight :=
            ForwardStringSearcher.isLongestMatchAt_iff_splits.mpr ⟨_, _, hstop, hnext⟩
          rw [hsplit, split_eq_of_isLongestMatchAt hmatch, List.map_cons,
            copy_subslice_of_splits hp hstop,
            ih (List.cons_ne_nil _ _) (fun i hi => hitems i (List.mem_cons_of_mem _ hi)) hnext]

/-- The items of a list are what its separators part. -/
theorem split_listing {items : List String} (hne : items ≠ [])
    (hitems : ∀ item ∈ items, ',' ∉ item.toList) :
    ((listing items).split ", ").toList.map (·.copy) = items := by
  have hsep : ", " ≠ "" := by decide
  have := ForwardStringSearcher.strictPatternModel hsep
  have := ForwardStringSearcher.lawfulToForwardSearcherModel hsep
  have hstart : (listing items).toSlice.startPos.Splits "" (listing items) :=
    String.Slice.splits_startPos_iff.mpr ⟨rfl, String.copy_toSlice.symm⟩
  rw [String.split_eq_split_toSlice, String.Slice.toList_split_eq_splitToSubslice,
    String.Slice.Pattern.toList_splitToSubslice_eq_modelSplit, List.map_map]
  exact map_copy_split hne hitems hstart

end Text

namespace Descriptor

variable {d : Descriptor}

/-! ## The clauses that are written out -/

/-- What stands between the predicate and the limit when it is written out. -/
def inlinedText (d : Descriptor) : String :=
  (d.groupByTail .inline).text ++ (d.havingTail .inline).text ++ (d.orderByTail .inline).text

theorem sql_of_inline (hs : d.clauseStyle = .inline) :
    d.compile.sql =
      d.head.text ++ d.whereTail.text ++ d.inlinedText ++
        (d.limitTail.text ++ d.offsetTail.text) := by
  rw [compile, clauses, tail, hs]
  have hend : (Statement.ofClauses []).sql = "" := rfl
  simp only [Statement.sql_ofClauses_cons, hend, String.append_empty, inlinedText,
    String.append_assoc]

/-- What the inline style writes besides the texts. -/
def inlinedWords : List String := [" GROUP BY ", " HAVING ", " ORDER BY ", ", "]

/-- The texts that the inline style writes out. -/
def inlinedTexts (d : Descriptor) : List String :=
  d.groupBy.toList ++ d.having.toList ++ d.orderBy

theorem forall_mem_ofOption_iff {P : Char → Prop} {words : String}
    (hwords : ∀ c ∈ words.toList, P c) {text : Option String} :
    (∀ c ∈ (Clause.ofOption (fun s => ⟨words ++ s, []⟩) text).text.toList, P c) ↔
      ∀ s ∈ text.toList, ∀ c ∈ s.toList, P c := by
  cases text with
  | none => exact iff_of_true (fun c hc => nomatch hc) (fun s hs => nomatch hs)
  | some s =>
      rw [Clause.ofOption, Text.forall_mem_append_iff, and_iff_right hwords, Option.toList_some,
        List.forall_mem_singleton]

theorem inert_of_isIdentifierList {s : String} (h : Identifier.isIdentifierList s = true) :
    Text.Inert s :=
  Text.inert_of_alphabet (P := Identifier.isListPart) (by decide)
    fun hc => Identifier.isListPart_of_isIdentifierList h hc

theorem inert_of_isHavingText {s : String} (h : Identifier.isHavingText s = true) :
    Text.Inert s :=
  Text.inert_of_alphabet (P := Identifier.isHavingPart) (by decide)
    fun hc => Identifier.isHavingPart_of_isHavingText h hc

theorem inert_of_isOrderTerm {s : String} (h : Identifier.isOrderTerm s = true) :
    Text.Inert s :=
  Text.inert_of_alphabet (P := Identifier.isOrderPart) (by decide)
    fun hc => Identifier.isOrderPart_of_isOrderTerm h hc

theorem comma_not_mem_of_isOrderTerm {s : String} (h : Identifier.isOrderTerm s = true) :
    ',' ∉ s.toList := by
  intro hc
  have hpart : Identifier.isOrderPart ',' = true := Identifier.isOrderPart_of_isOrderTerm h hc
  exact absurd hpart (by decide)

theorem text_orderByTail_of_ne_nil (hne : d.orderBy ≠ []) :
    (d.orderByTail .inline).text = " ORDER BY " ++ Text.listing d.orderBy := by
  rw [orderByTail]
  split
  · next hnil => exact absurd hnil hne
  · rfl

/-- What holds of the words holds of all that is written out if it holds of the texts. -/
theorem forall_mem_inlinedText_iff {P : Char → Prop}
    (hwords : ∀ word ∈ inlinedWords, ∀ c ∈ word.toList, P c) :
    (∀ c ∈ d.inlinedText.toList, P c) ↔ ∀ s ∈ d.inlinedTexts, ∀ c ∈ s.toList, P c := by
  simp only [inlinedWords, List.forall_mem_cons] at hwords
  obtain ⟨hgroupBy, hhaving, horderBy, hsep, -⟩ := hwords
  have hterms : (∀ c ∈ (d.orderByTail .inline).text.toList, P c) ↔
      ∀ s ∈ d.orderBy, ∀ c ∈ s.toList, P c := by
    by_cases hne : d.orderBy = []
    · rw [orderByTail, hne]
      exact iff_of_true (fun c hc => absurd hc List.not_mem_nil)
        (fun s hs => absurd hs List.not_mem_nil)
    · rw [text_orderByTail_of_ne_nil hne, Text.forall_mem_append_iff, and_iff_right horderBy,
        Text.forall_mem_listing_iff hsep]
  rw [inlinedText, Text.forall_mem_append_iff, Text.forall_mem_append_iff, groupByTail, havingTail,
    forall_mem_ofOption_iff hgroupBy, forall_mem_ofOption_iff hhaving, hterms, inlinedTexts,
    List.forall_mem_append, List.forall_mem_append]

theorem inert_inlinedText (hs : d.clauseStyle = .inline) (hv : d.IsValid) :
    Text.Inert d.inlinedText := by
  obtain ⟨hgroup, hhaving, horder⟩ := hv.inlined hs
  have hwords : ∀ word ∈ inlinedWords, Text.Inert word := by decide
  refine (forall_mem_inlinedText_iff hwords).mpr fun s hmem => ?_
  rcases List.mem_append.mp hmem with hmem | hmem
  · rcases List.mem_append.mp hmem with hmem | hmem
    · exact inert_of_isIdentifierList (hgroup s (Option.mem_toList.mp hmem))
    · exact inert_of_isHavingText (hhaving s (Option.mem_toList.mp hmem))
  · exact inert_of_isOrderTerm (horder s hmem)

/-- What a valid query writes out between the predicate and the limit can neither
quote nor comment nor take a value, nor start another statement; and its terms of
ORDER BY are those that were given, one between two separators. -/
theorem inlinedText_inert (hs : d.clauseStyle = .inline) (hv : d.IsValid) :
    d.compile.sql =
        d.head.text ++ d.whereTail.text ++ d.inlinedText ++
          (d.limitTail.text ++ d.offsetTail.text) ∧
      Text.Inert d.inlinedText ∧
      (Text.placeholders d.inlinedText = 0 ∧ ¬ ['-', '-'] <:+: d.inlinedText.toList ∧
        ¬ ['/', '*'] <:+: d.inlinedText.toList) ∧
      (∀ term ∈ d.orderBy, Identifier.isOrderTerm term = true ∧ ',' ∉ term.toList) ∧
      (d.orderBy ≠ [] →
        (d.orderByTail .inline).text = " ORDER BY " ++ Text.listing d.orderBy ∧
          ((Text.listing d.orderBy).split ", ").toList.map (·.copy) = d.orderBy) := by
  have hinert : Text.Inert d.inlinedText := inert_inlinedText hs hv
  have hterms : ∀ term ∈ d.orderBy,
      Identifier.isOrderTerm term = true ∧ ',' ∉ term.toList := by
    intro term ht
    have hterm := (hv.inlined hs).2.2 term ht
    exact ⟨hterm, comma_not_mem_of_isOrderTerm hterm⟩
  refine ⟨sql_of_inline hs, hinert, ⟨hinert.placeholders_eq_zero, ?_, ?_⟩, hterms, ?_⟩
  · exact hinert.not_isInfix (c := '-') (by decide) (by decide)
  · exact hinert.not_isInfix (c := '/') (by decide) (by decide)
  · intro hne
    have hcommas : ∀ term ∈ d.orderBy, ',' ∉ term.toList := fun term ht => (hterms term ht).2
    exact ⟨text_orderByTail_of_ne_nil hne, Text.split_listing hne hcommas⟩

/-- The grammars let blanks of any kind through, and a long s for an s. -/
theorem inlinedText_inert_grouped :
    let d : Descriptor :=
      { mode := some .select, fromTable := some "posts", whereClause := some "body = ';--'",
        groupBy := some "author ,\tposts.day", having := some "COUNT(*) >= 10 % 4",
        orderBy := ["author deſc", " posts.day\n", "author"], limit := some 5,
        clauseStyle := .inline }
    d.IsValid ∧
      d.inlinedText =
        " GROUP BY author ,\tposts.day HAVING COUNT(*) >= 10 % 4" ++
          " ORDER BY author deſc,  posts.day\n, author" ∧
      ¬ ['-', '-'] <:+: d.inlinedText.toList ∧
      ((Text.listing d.orderBy).split ", ").toList.map (·.copy) = d.orderBy := by
  intro d
  have hv : d.IsValid := by decide
  obtain ⟨-, -, ⟨-, hcomment, -⟩, -, hlist⟩ := inlinedText_inert (d := d) rfl hv
  exact ⟨hv, by decide, hcomment, (hlist (by decide)).2⟩

end Descriptor

end SqlChain
