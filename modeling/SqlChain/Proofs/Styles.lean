import SqlChain.Proofs.Placeholders

/-!
# One statement in two styles

The bound style sends the texts of GROUP BY, HAVING and ORDER BY as parameters; the
inline style writes them out. This file says that there is no other difference. The
clauses are the same, only WHERE has another place among them. A clause that is
written out is the one that is sent, with its question marks filled in; what is sent
with it is exactly the texts that fill them in, and the values of all other clauses
stay as they are and in their order.

Nothing is assumed of the descriptor: it need not be valid, and no chain need lead to
it. A predicate that is not there may still have values, and both styles send them.
-/

namespace SqlChain

/-! ## Filling in -/

namespace Text

/-- The characters of a template, its question marks replaced from the left by the
texts. When there are no more texts, the rest stays as it is. -/
def fillChars : List Char → List String → List Char
  | [], _ => []
  | c :: cs, [] => c :: cs
  | c :: cs, text :: rest =>
      if c = '?' then text.toList ++ fillChars cs rest else c :: fillChars cs (text :: rest)

/-- The template with its question marks filled in. A question mark in a text is
none of the template's. -/
def fill (template : String) (texts : List String) : String :=
  String.ofList (fillChars template.toList texts)

theorem fillChars_nil (cs : List Char) : fillChars cs [] = cs := by
  cases cs <;> rfl

theorem fillChars_append {cs : List Char} (h : '?' ∉ cs) (rest : List Char)
    (texts : List String) : fillChars (cs ++ rest) texts = cs ++ fillChars rest texts := by
  cases texts with
  | nil => rw [fillChars_nil, fillChars_nil]
  | cons text texts =>
      induction cs with
      | nil => rfl
      | cons c cs ih =>
          simp only [List.mem_cons, not_or] at h
          rw [List.cons_append, fillChars, if_neg (Ne.symm h.1), ih h.2, List.cons_append]

theorem fill_append {s : String} (h : placeholders s = 0) (template : String)
    (texts : List String) : fill (s ++ template) texts = s ++ fill template texts := by
  have hchars := fillChars_append (placeholders_eq_zero_iff.mp h) template.toList texts
  rw [fill, String.toList_append, hchars, String.ofList_append, String.ofList_toList, fill]

theorem fill_mark_append (template text : String) (rest : List String) :
    fill ("?" ++ template) (text :: rest) = text ++ fill template rest := by
  have hmark : ("?" ++ template).toList = '?' :: template.toList := by
    rw [String.toList_append]
    rfl
  rw [fill, hmark, fillChars, if_pos rfl, String.ofList_append, String.ofList_toList, fill]

theorem fill_placeholderList (texts : List String) :
    fill (placeholderList texts.length) texts = listing texts := by
  induction texts with
  | nil => rfl
  | cons text rest ih =>
      cases rest with
      | nil =>
          show fill ("?" ++ "") [text] = text
          rw [fill_mark_append]
          exact String.append_empty
      | cons next rest =>
          have hcomma : placeholders ", " = 0 := by decide
          show fill ("?" ++ ", " ++ placeholderList (next :: rest).length) (text :: next :: rest) =
            text ++ ", " ++ listing (next :: rest)
          rw [String.append_assoc, fill_mark_append, fill_append hcomma, ih, String.append_assoc]

end Text

/-! ## A clause in two styles -/

/-- `sent` and `written` are one clause, opened by `words`: the one sends the texts,
the other has them in the places of the question marks. Where there are no texts
there is no clause. -/
structure Clause.Renders (words : String) (texts : List String) (sent written : Clause) :
    Prop where
  sent_follows : sent.Follows (words, !texts.isEmpty)
  written_follows : written.Follows (words, !texts.isEmpty)
  placeholders_sent : Text.placeholders sent.text = texts.length
  values_sent : sent.values = texts.map .text
  text_written : written.text = Text.fill sent.text texts
  values_written : written.values = []

theorem Clause.renders_nothing (words : String) : Renders words [] .nothing .nothing where
  sent_follows := rfl
  written_follows := rfl
  placeholders_sent := rfl
  values_sent := rfl
  text_written := rfl
  values_written := rfl

theorem Clause.renders_listing {words : String} (hw : Text.placeholders words = 0)
    {texts : List String} (hne : texts ≠ []) :
    Renders words texts ⟨words ++ Text.placeholderList texts.length, texts.map .text⟩
      ⟨words ++ Text.listing texts, []⟩ := by
  have hthere : (!texts.isEmpty) = true := by simpa using hne
  refine ⟨?_, ?_, ?_, rfl, ?_, rfl⟩
  · rw [hthere]
    exact ⟨Text.placeholderList texts.length, rfl⟩
  · rw [hthere]
    exact ⟨Text.listing texts, rfl⟩
  · rw [Text.placeholders_append, hw, Text.placeholders_placeholderList, Nat.zero_add]
  · rw [Text.fill_append hw, Text.fill_placeholderList]

namespace Descriptor

/-- The descriptor in a style. -/
def styled (style : ClauseStyle) (d : Descriptor) : Descriptor := { d with clauseStyle := style }

theorem groupByTail_renders (d : Descriptor) :
    Clause.Renders " GROUP BY " d.groupBy.toList (d.groupByTail .bound) (d.groupByTail .inline) := by
  rw [groupByTail, groupByTail]
  cases d.groupBy with
  | none => exact Clause.renders_nothing _
  | some columns =>
      exact Clause.renders_listing (by decide) (List.cons_ne_nil columns [])

theorem havingTail_renders (d : Descriptor) :
    Clause.Renders " HAVING " d.having.toList (d.havingTail .bound) (d.havingTail .inline) := by
  rw [havingTail, havingTail]
  cases d.having with
  | none => exact Clause.renders_nothing _
  | some expression =>
      exact Clause.renders_listing (by decide) (List.cons_ne_nil expression [])

theorem orderByTail_renders (d : Descriptor) :
    Clause.Renders " ORDER BY " d.orderBy (d.orderByTail .bound) (d.orderByTail .inline) := by
  rw [orderByTail, orderByTail]
  cases d.orderBy with
  | nil => exact Clause.renders_nothing _
  | cons first others =>
      exact Clause.renders_listing (by decide) (List.cons_ne_nil first others)

theorem values_whereTail (d : Descriptor) : d.whereTail.values = d.whereParameters := by
  rw [whereTail]
  cases d.whereClause <;> rfl

/-- The clauses that come last in both styles. -/
def rows (d : Descriptor) : Statement := .ofClauses [d.limitTail, d.offsetTail]

theorem sql_bound (d : Descriptor) :
    (d.styled .bound).compile.sql =
      d.head.text ++ (d.groupByTail .bound).text ++ (d.havingTail .bound).text ++
        d.whereTail.text ++ (d.orderByTail .bound).text ++ d.rows.sql := by
  show (Statement.ofClauses (d.head :: d.groupByTail .bound :: d.havingTail .bound ::
    d.whereTail :: d.orderByTail .bound :: [d.limitTail, d.offsetTail])).sql = _
  simp only [Statement.sql_ofClauses_cons, rows, String.append_assoc]

theorem sql_inline (d : Descriptor) :
    (d.styled .inline).compile.sql =
      d.head.text ++ d.whereTail.text ++ (d.groupByTail .inline).text ++
        (d.havingTail .inline).text ++ (d.orderByTail .inline).text ++ d.rows.sql := by
  show (Statement.ofClauses (d.head :: d.whereTail :: d.groupByTail .inline ::
    d.havingTail .inline :: d.orderByTail .inline :: [d.limitTail, d.offsetTail])).sql = _
  simp only [Statement.sql_ofClauses_cons, rows, String.append_assoc]

theorem parameters_bound (d : Descriptor) :
    (d.styled .bound).compile.parameters =
      d.head.values ++ d.groupBy.toList.map .text ++ d.having.toList.map .text ++
        d.whereParameters ++ d.orderBy.map .text ++ d.rows.parameters := by
  show (Statement.ofClauses (d.head :: d.groupByTail .bound :: d.havingTail .bound ::
    d.whereTail :: d.orderByTail .bound :: [d.limitTail, d.offsetTail])).parameters = _
  simp only [Statement.parameters_ofClauses_cons, d.groupByTail_renders.values_sent,
    d.havingTail_renders.values_sent, d.orderByTail_renders.values_sent, values_whereTail, rows,
    List.append_assoc]

theorem parameters_inline (d : Descriptor) :
    (d.styled .inline).compile.parameters =
      d.head.values ++ d.whereParameters ++ d.rows.parameters := by
  show (Statement.ofClauses (d.head :: d.whereTail :: d.groupByTail .inline ::
    d.havingTail .inline :: d.orderByTail .inline :: [d.limitTail, d.offsetTail])).parameters = _
  simp only [Statement.parameters_ofClauses_cons, d.groupByTail_renders.values_written,
    d.havingTail_renders.values_written, d.orderByTail_renders.values_written, values_whereTail,
    rows, List.append_assoc, List.nil_append]

/-- The style makes no difference exactly if there is no text for it to send or to
write. -/
theorem styled_compile_eq_iff (d : Descriptor) :
    (d.styled .bound).compile = (d.styled .inline).compile ↔
      d.groupBy = none ∧ d.having = none ∧ d.orderBy = [] := by
  constructor
  · intro h
    have hlength := congrArg (fun s => s.parameters.length) h
    simp only [parameters_bound, parameters_inline, List.length_append, List.length_map] at hlength
    have hg : d.groupBy.toList.length = 0 := by omega
    have hh : d.having.toList.length = 0 := by omega
    have ho : d.orderBy.length = 0 := by omega
    refine ⟨?_, ?_, List.length_eq_zero_iff.mp ho⟩
    · exact Option.toList_eq_nil_iff.mp (List.length_eq_zero_iff.mp hg)
    · exact Option.toList_eq_nil_iff.mp (List.length_eq_zero_iff.mp hh)
  · rintro ⟨hg, hh, ho⟩
    have hsql : (d.styled .bound).compile.sql = (d.styled .inline).compile.sql := by
      rw [sql_bound, sql_inline]
      simp only [groupByTail, havingTail, orderByTail, hg, hh, ho, Clause.ofOption,
        Clause.nothing, String.append_empty]
    have hparameters :
        (d.styled .bound).compile.parameters = (d.styled .inline).compile.parameters := by
      rw [parameters_bound, parameters_inline, hg, hh, ho]
      simp only [Option.toList_none, List.map_nil, List.append_nil]
    have heq := congr (congrArg Statement.mk hsql) hparameters
    exact heq

/-- The two styles render the same clauses. -/
theorem compile_two_styles (d : Descriptor) :
    (d.styled .bound).compile.sql =
        d.head.text ++ (d.groupByTail .bound).text ++ (d.havingTail .bound).text ++
          d.whereTail.text ++ (d.orderByTail .bound).text ++ d.rows.sql ∧
      (d.styled .inline).compile.sql =
        d.head.text ++ d.whereTail.text ++ (d.groupByTail .inline).text ++
          (d.havingTail .inline).text ++ (d.orderByTail .inline).text ++ d.rows.sql ∧
      Clause.Renders " GROUP BY " d.groupBy.toList
        (d.groupByTail .bound) (d.groupByTail .inline) ∧
      Clause.Renders " HAVING " d.having.toList (d.havingTail .bound) (d.havingTail .inline) ∧
      Clause.Renders " ORDER BY " d.orderBy (d.orderByTail .bound) (d.orderByTail .inline) ∧
      (d.styled .bound).compile.parameters =
        d.head.values ++ d.groupBy.toList.map .text ++ d.having.toList.map .text ++
          d.whereParameters ++ d.orderBy.map .text ++ d.rows.parameters ∧
      (d.styled .inline).compile.parameters =
        d.head.values ++ d.whereParameters ++ d.rows.parameters ∧
      ((d.styled .bound).compile = (d.styled .inline).compile ↔
        d.groupBy = none ∧ d.having = none ∧ d.orderBy = []) :=
  ⟨d.sql_bound, d.sql_inline, d.groupByTail_renders, d.havingTail_renders,
    d.orderByTail_renders, d.parameters_bound, d.parameters_inline, d.styled_compile_eq_iff⟩

-- no chain leads here: there is a value, and no predicate that it is for
example :
    let d : Descriptor :=
      { fromTable := some "t", whereParameters := [.integer 1], orderBy := ["a", "b"] }
    (d.styled .bound).compile =
        ⟨"SELECT * FROM t ORDER BY ?, ?", [.integer 1, .text "a", .text "b"]⟩ ∧
      (d.styled .inline).compile = ⟨"SELECT * FROM t ORDER BY a, b", [.integer 1]⟩ := by
  decide

end Descriptor

end SqlChain
