import SqlChain.Proofs.Sorting
import SqlChain.Sqlite.Connection

/-!
# A query for its own parameters

`SELECT ? AS "a", ? AS "b"` names no table and asks for its parameters, one column for
each, in their order. This file follows such a query through the engine: its characters
become tokens, the question marks are numbered from the left, the reader makes columns of
them, no name has to be looked up, and the one row there is holds what the parameters are
bound to. It does so for any names, since in double quotes everything but a NUL can be
part of one.
-/

namespace SqlChain.Sqlite

namespace Echo

/-! ## The text -/

/-- The characters of a name between double quotes, where a quote is written twice. -/
def doubled (name : List Char) : List Char :=
  name.flatMap fun c => if c = '"' then ['"', '"'] else [c]

/-- A name in double quotes. -/
def quotedChars (name : String) : List Char := '"' :: (doubled name.toList ++ ['"'])

/-- A column of the query: a question mark and its name. -/
def column (name : String) : String := "? AS " ++ String.ofList (quotedChars name)

/-- The query that asks for its parameters under names. -/
def query (names : List String) : String := "SELECT " ++ Text.listing (names.map column)

/-- The characters of further columns. -/
def moreChars (names : List String) : List Char :=
  names.flatMap fun name => ',' :: ' ' :: (column name).toList

theorem toList_listing (item : String) (rest : List String) :
    (Text.listing (item :: rest)).toList =
      item.toList ++ rest.flatMap fun next => ',' :: ' ' :: next.toList := by
  induction rest generalizing item with
  | nil => simp [Text.listing]
  | cons next rest ih =>
      rw [Text.listing_cons_cons, String.toList_append, String.toList_append, ih, List.flatMap_cons]
      simp

theorem toList_column (name : String) :
    (column name).toList = ['?'] ++ ' ' :: (['A', 'S'] ++ ' ' :: quotedChars name) := by
  rw [column, String.toList_append, String.toList_ofList (l := quotedChars name)]
  rfl

theorem toList_query (name : String) (names : List String) :
    (query (name :: names)).toList =
      ['S', 'E', 'L', 'E', 'C', 'T'] ++ ' ' :: ((column name).toList ++ moreChars names) := by
  have hselect : "SELECT ".toList = ['S', 'E', 'L', 'E', 'C', 'T'] ++ [' '] := by decide
  rw [query, String.toList_append, hselect, List.append_assoc, List.singleton_append,
    List.map_cons, toList_listing, List.flatMap_map, moreChars]

theorem moreChars_cons (name : String) (names : List String) :
    moreChars (name :: names) = ',' :: ' ' :: ((column name).toList ++ moreChars names) := rfl

theorem head?_moreChars (names : List String) : (moreChars names).head? ≠ some '"' := by
  cases names <;> simp [moreChars]

theorem length_moreChars (names : List String) : 7 * names.length ≤ (moreChars names).length := by
  induction names with
  | nil => exact Nat.zero_le _
  | cons name names ih =>
      rw [moreChars_cons, toList_column, quotedChars]
      simp only [List.length_cons, List.length_append, List.length_nil]
      omega

theorem nul_not_mem_column {name : String} (h : '\x00' ∉ name.toList) :
    '\x00' ∉ (column name).toList := by
  have hdoubled : '\x00' ∉ doubled name.toList := by
    intro hnul
    obtain ⟨c, hc, hnul⟩ := List.mem_flatMap.mp hnul
    split_ifs at hnul
    · simp at hnul
    · exact h (List.mem_singleton.mp hnul ▸ hc)
  simp [toList_column, quotedChars, hdoubled]

theorem nul_not_mem_query {name : String} {names : List String}
    (h : ∀ n ∈ name :: names, '\x00' ∉ n.toList) :
    '\x00' ∉ (query (name :: names)).toList := by
  obtain ⟨hname, hnames⟩ := List.forall_mem_cons.mp h
  have hmore : '\x00' ∉ moreChars names := by
    intro hnul
    obtain ⟨n, hn, hnul⟩ := List.mem_flatMap.mp hnul
    simp [nul_not_mem_column (hnames n hn)] at hnul
  simp [toList_query, nul_not_mem_column hname, hmore]

theorem exists_query_eq (name : String) (names : List String) :
    ∃ gap, (query (name :: names)).toList = ['S'] ++ (gap ++ ['"']) := by
  have hcolumn : ∀ n, ∃ gap, (column n).toList = gap ++ ['"'] := fun n =>
    ⟨['?', ' ', 'A', 'S', ' ', '"'] ++ doubled n.toList, toList_column n⟩
  have hmore : moreChars names = [] ∨ ∃ gap, moreChars names = gap ++ ['"'] := by
    rcases List.eq_nil_or_concat names with rfl | ⟨front, last, rfl⟩
    · exact .inl rfl
    · obtain ⟨gap, hgap⟩ := hcolumn last
      refine .inr ⟨moreChars front ++ ',' :: ' ' :: gap, ?_⟩
      rw [moreChars, List.concat_eq_append, List.flatMap_append, List.flatMap_singleton, hgap]
      simp [moreChars]
  obtain ⟨gap, hgap⟩ := hcolumn name
  rw [toList_query, hgap]
  rcases hmore with hmore | ⟨back, hmore⟩
  · exact ⟨['E', 'L', 'E', 'C', 'T', ' '] ++ gap, by simp [hmore]⟩
  · exact ⟨['E', 'L', 'E', 'C', 'T', ' '] ++ gap ++ '"' :: back, by simp [hmore]⟩

theorem trim_query (name : String) (names : List String) :
    Text.trim (query (name :: names)) = query (name :: names) := by
  obtain ⟨gap, hgap⟩ := exists_query_eq name names
  have hfirst : ¬ ∀ c ∈ ['S'], Text.isBlank c = true := fun h =>
    Bool.false_ne_true (h 'S' (List.mem_singleton_self _))
  have hlast : ∀ c ∈ ['"'], Text.isBlank c = false := List.forall_mem_singleton.mpr rfl
  have htrim : Text.trimList (query (name :: names)).toList = (query (name :: names)).toList := by
    rw [hgap]
    exact Text.trimList_append_of_not_blank hfirst (List.cons_ne_nil _ _) hlast gap
  rw [Text.trim, htrim, String.ofList_toList]

/-! ## Its tokens -/

/-- The tokens of a column, with a number for the question mark. -/
def columnTokens (c : String × Nat) : List Token :=
  [⟨.parameter c.2, "?", " "⟩, ⟨.word, "AS", " "⟩,
    ⟨.quoted c.1 true, String.ofList (quotedChars c.1), " "⟩]

/-- The tokens of further columns, up to the end. -/
def moreTokens : List (String × Nat) → List Token
  | [] => [⟨.finish, "", ""⟩]
  | c :: rest => ⟨.symbol, ",", ""⟩ :: (columnTokens c ++ moreTokens rest)

/-- The tokens of the columns. -/
def columnsTokens : List (String × Nat) → List Token
  | [] => [⟨.finish, "", ""⟩]
  | c :: rest => columnTokens c ++ moreTokens rest

/-- The tokens of the query. -/
def queryTokens (columns : List (String × Nat)) : List Token :=
  ⟨.word, "SELECT", ""⟩ :: columnsTokens columns

section

variable {fuel : Nat} {rest : List Char}

theorem exists_doubled_append_cons (name : List Char) (c : Char) (rest : List Char) :
    ∃ d more, doubled name ++ c :: rest = d :: more := by
  cases doubled name with
  | nil => exact ⟨_, _, rfl⟩
  | cons d more => exact ⟨_, _, rfl⟩

/-- A doubled quote closes nothing, and the quote behind the name does. -/
theorem quoted_doubled (name : List Char) (h : rest.head? ≠ some '"') :
    quotedLength? '"' (doubled name ++ '"' :: rest) = some ((doubled name).length + 1) ∧
      unquoted '"' (doubled name ++ '"' :: rest) = name := by
  induction name with
  | nil =>
      cases rest with
      | nil => exact ⟨rfl, rfl⟩
      | cons c rest =>
          have hc : c ≠ '"' := fun hc => h (by rw [hc]; rfl)
          show quotedLength? '"' ('"' :: c :: rest) = some 1 ∧ unquoted '"' ('"' :: c :: rest) = []
          rw [quotedLength?, unquoted, if_pos rfl, if_neg hc, if_neg (fun h => hc h.2), if_pos rfl]
          exact ⟨rfl, rfl⟩
  | cons c name ih =>
      by_cases hc : c = '"'
      · subst hc
        show quotedLength? '"' ('"' :: '"' :: (doubled name ++ '"' :: rest)) = _ ∧
          unquoted '"' ('"' :: '"' :: (doubled name ++ '"' :: rest)) = _
        rw [quotedLength?, unquoted, if_pos rfl, if_pos rfl, if_pos ⟨rfl, rfl⟩, ih.1, ih.2]
        exact ⟨rfl, rfl⟩
      · have hdoubled : doubled (c :: name) = c :: doubled name := by
          rw [doubled, List.flatMap_cons, if_neg hc]
          rfl
        -- both functions look at two characters, so the next one has to be shown
        obtain ⟨d, more, hd⟩ := exists_doubled_append_cons name '"' rest
        rw [hdoubled, List.cons_append, List.length_cons]
        rw [hd] at ih ⊢
        rw [quotedLength?, unquoted, if_neg hc, if_neg (fun h => hc h.1), if_neg hc, ih.1, ih.2]
        exact ⟨rfl, rfl⟩

theorem readToken_quotedChars (name : String) (h : rest.head? ≠ some '"') :
    readToken (quotedChars name ++ rest) =
      ⟨.quoted name true, String.ofList (quotedChars name), ""⟩ := by
  obtain ⟨hlength, hname⟩ := quoted_doubled name.toList h
  have hchars : quotedChars name ++ rest = '"' :: (doubled name.toList ++ '"' :: rest) := by
    simp [quotedChars]
  have htake : (quotedChars name ++ rest).take ((doubled name.toList).length + 1 + 1) =
      quotedChars name := List.take_left' (by simp [quotedChars])
  rw [hchars] at htake ⊢
  show quotedToken '"' (.quoted · true) ('"' :: (doubled name.toList ++ '"' :: rest)) = _
  rw [quotedToken, List.drop_one, List.tail_cons, hlength, hname]
  dsimp only
  rw [tokenOf, htake, String.ofList_toList]

theorem tokensFrom_column (name : String) (h : rest.head? ≠ some '"') :
    tokensFrom (fuel + 5) [' '] ((column name).toList ++ rest) =
      columnTokens (name, 0) ++ tokensFrom fuel [] rest := by
  rw [toList_column]
  show tokensFrom (fuel + 5) [' ']
    (['?'] ++ ' ' :: (['A', 'S'] ++ ' ' :: (quotedChars name ++ rest))) = _
  rw [tokensFrom_token (.parameter 0) rfl rfl (List.cons_ne_nil _ _),
    tokensFrom_blank (by rintro c ⟨⟩; rfl),
    tokensFrom_token .word rfl rfl (List.cons_ne_nil _ _),
    tokensFrom_blank (by rintro c ⟨⟩; rfl),
    tokensFrom_token _ rfl (readToken_quotedChars name h) (List.cons_ne_nil _ _)]
  rfl

theorem tokensFrom_blank_column (name : String) (h : rest.head? ≠ some '"') :
    tokensFrom (fuel + 6) [] (' ' :: ((column name).toList ++ rest)) =
      columnTokens (name, 0) ++ tokensFrom fuel [] rest := by
  rw [tokensFrom_blank, tokensFrom_column name h]
  rw [toList_column]
  rintro c ⟨⟩
  rfl

theorem tokensFrom_moreChars (names : List String) :
    tokensFrom (fuel + 7 * names.length) [] (moreChars names) =
      moreTokens (names.map fun name => (name, 0)) := by
  induction names with
  | nil => cases fuel <;> rfl
  | cons name names ih =>
      rw [List.length_cons, Nat.mul_add_one, ← Nat.add_assoc]
      show tokensFrom _ [] ([','] ++ ' ' :: ((column name).toList ++ moreChars names)) = _
      rw [tokensFrom_token .symbol rfl rfl (List.cons_ne_nil _ _),
        tokensFrom_blank_column name (head?_moreChars names), ih]
      rfl

theorem tokens_query {name : String} {names : List String}
    (h : ∀ n ∈ name :: names, '\x00' ∉ n.toList) :
    tokens (query (name :: names)) = queryTokens ((name :: names).map fun n => (n, 0)) := by
  have hwhole : (query (name :: names)).toList.takeWhile (· ≠ '\x00') =
      (query (name :: names)).toList :=
    List.takeWhile_eq_self_iff.mpr fun c hc =>
      decide_eq_true fun hnul => nul_not_mem_query h (hnul ▸ hc)
  -- each column takes seven steps, and is longer than that
  have hlength := length_moreChars names
  obtain ⟨fuel, hfuel⟩ : ∃ fuel,
      (['S', 'E', 'L', 'E', 'C', 'T'] ++ ' ' :: ((column name).toList ++ moreChars names)).length +
        1 = fuel + 7 * names.length + 6 + 1 := by
    refine ⟨(column name).toList.length + (moreChars names).length + 1 - 7 * names.length, ?_⟩
    simp only [List.length_append, List.length_cons, List.length_nil]
    omega
  rw [tokens, hwhole, toList_query, hfuel,
    tokensFrom_token .word rfl rfl (List.cons_ne_nil _ _),
    tokensFrom_blank_column name (head?_moreChars names), tokensFrom_moreChars]
  rfl

end

/-! ## Statements and numbers -/

theorem statementsFrom_append {before ts rest : List Token}
    (h : ∀ t ∈ ts, t.kind ≠ .finish ∧ Reader.isSymbolToken ";" t = false) :
    statementsFrom before (ts ++ rest) = statementsFrom (ts.reverse ++ before) rest := by
  induction ts generalizing before with
  | nil => rfl
  | cons t ts ih =>
      obtain ⟨⟨hfinish, hsemicolon⟩, hts⟩ := List.forall_mem_cons.mp h
      rw [List.cons_append, statementsFrom, if_neg hfinish, hsemicolon,
        if_neg Bool.false_ne_true, ih hts, List.reverse_cons, List.append_assoc]
      rfl

theorem exists_moreTokens_eq (columns : List (String × Nat)) :
    ∃ ts, moreTokens columns = ts ++ [⟨.finish, "", ""⟩] ∧
      ∀ t ∈ ts, t.kind ≠ .finish ∧ Reader.isSymbolToken ";" t = false := by
  induction columns with
  | nil => exact ⟨[], rfl, List.forall_mem_nil _⟩
  | cons c columns ih =>
      obtain ⟨ts, hts, hplain⟩ := ih
      refine ⟨⟨.symbol, ",", ""⟩ :: (columnTokens c ++ ts), by simp [moreTokens, hts], ?_⟩
      simpa [columnTokens, Reader.isSymbolToken] using hplain

theorem statements_query {name : String} {names : List String}
    (h : ∀ n ∈ name :: names, '\x00' ∉ n.toList) :
    statements (query (name :: names)) = [queryTokens ((name :: names).map fun n => (n, 0))] := by
  obtain ⟨ts, hts, hplain⟩ := exists_moreTokens_eq (names.map fun n => (n, 0))
  have htokens : queryTokens ((name :: names).map fun n => (n, 0)) =
      (⟨.word, "SELECT", ""⟩ :: (columnTokens (name, 0) ++ ts)) ++ [⟨.finish, "", ""⟩] := by
    simp [queryTokens, columnsTokens, hts]
  rw [statements, trim_query, tokens_query h, htokens, statementsFrom_append]
  · simp [statementsFrom]
  · simpa [columnTokens, Reader.isSymbolToken] using hplain

/-! ## Numbers -/

theorem add_mark (ps : Parameters) : ps.add "?" = (ps.length + 1, ps ++ [none]) := rfl

theorem numbered_columnTokens (name : String) (rest : List Token) (ps : Parameters) :
    Parameters.numbered (columnTokens (name, 0) ++ rest) ps =
      (columnTokens (name, ps.length + 1) ++ (Parameters.numbered rest (ps ++ [none])).1,
        (Parameters.numbered rest (ps ++ [none])).2) := by
  have hmark : "?".toList = ['?'] := rfl
  simp [columnTokens, Parameters.numbered, hmark, add_mark]

theorem numbered_moreTokens (names : List String) (ps : Parameters) :
    Parameters.numbered (moreTokens (names.map fun name => (name, 0))) ps =
      (moreTokens (names.zipIdx (ps.length + 1)), ps ++ List.replicate names.length none) := by
  induction names generalizing ps with
  | nil => exact congrArg _ (List.append_nil ps).symm
  | cons name names ih =>
      rw [List.map_cons, List.zipIdx_cons, moreTokens, moreTokens, Parameters.numbered]
      dsimp only
      rw [numbered_columnTokens, ih]
      simp [List.replicate_succ]

theorem numbered_queryTokens (names : List String) :
    Parameters.numbered (queryTokens (names.map fun name => (name, 0))) [] =
      (queryTokens (names.zipIdx 1), List.replicate names.length none) := by
  cases names with
  | nil => rfl
  | cons name names =>
      rw [List.map_cons, List.zipIdx_cons, queryTokens, queryTokens, columnsTokens, columnsTokens,
        Parameters.numbered]
      dsimp only
      rw [numbered_columnTokens, numbered_moreTokens]
      simp [List.replicate_succ]

/-! ## Reading -/

/-- The words, beside operators, that an expression can go on with. -/
def continuations : List String :=
  ["COLLATE", "ISNULL", "NOTNULL", "IS", "NOT", "LIKE", "GLOB", "REGEXP", "MATCH", "BETWEEN", "IN"]

/-- A column whose question mark has a number that there can be. -/
def Fits (c : String × Nat) : Prop := c.2 ≠ 0 ∧ c.2 ≤ Reader.maxParameter

/-- What a column is read as. -/
def selection (c : String × Nat) : Selected := .expression (.parameter c.2) (some c.1) "?"

section

variable {fuel : Nat} {t : Token} {rest : List Token}

open Reader

/-- An expression ends before a token that is no operator and starts no test. -/
theorem goOn_of_end {level : Nat} {x : Reader.Term} (hoperator : binaryOperator? t = none)
    (hword : ∀ word ∈ continuations, isKeyword word t = false) :
    goOn (fuel + 1) level x ⟨t :: rest, none⟩ = .ok (x, ⟨t :: rest, none⟩) := by
  simp only [continuations, List.forall_mem_cons] at hword
  obtain ⟨hcollate, hisnull, hnotnull, his, hnot, hlike, hglob, hregexp, hmatch, hbetween, hin,
    -⟩ := hword
  have hpattern : isPatternWord t = false := by
    simp [isPatternWord, hlike, hglob, hregexp, hmatch]
  rw [goOn, bind_of_ok peek_cons, hoperator]
  dsimp only
  rw [hcollate, hpattern, hbetween, hin, Bool.false_and, Bool.false_or, Bool.false_or,
    if_neg Bool.false_ne_true, if_neg Bool.false_ne_true]
  split_ifs
  · rfl
  · rw [acceptKeyword, bind_of_ok (accept_of_fail hisnull), if_neg Bool.false_ne_true,
      acceptKeyword, bind_of_ok (accept_of_fail hnotnull), if_neg Bool.false_ne_true,
      acceptKeyword, bind_of_ok (accept_of_fail his), if_neg Bool.false_ne_true,
      acceptKeyword, bind_of_ok (accept_of_fail hnot), if_neg Bool.false_ne_true]
    rfl

theorem operand_column {c : String × Nat} (h : Fits c) :
    operand (fuel + 1) ⟨columnTokens c ++ rest, none⟩ =
      .ok (.parameter c.2, ⟨(columnTokens c).drop 1 ++ rest, none⟩) := by
  rw [columnTokens, List.cons_append, operand, bind_of_ok peek_cons]
  dsimp only
  rw [bind_of_ok skip_cons, if_neg h.1, if_neg (Nat.not_lt.mpr h.2)]
  rfl

theorem expression_column {c : String × Nat} (h : Fits c) :
    expression ⟨columnTokens c ++ rest, none⟩ =
      .ok (.parameter c.2, ⟨(columnTokens c).drop 1 ++ rest, none⟩) := by
  have hword : ∀ word ∈ continuations, isKeyword word ⟨.word, "AS", " "⟩ = false := by decide
  have hat : expressionAt (8 * (columnTokens c ++ rest).length + 16) 1
      ⟨columnTokens c ++ rest, none⟩ =
        .ok (.parameter c.2, ⟨(columnTokens c).drop 1 ++ rest, none⟩) := by
    rw [expressionAt, bind_of_ok (operand_column h)]
    exact goOn_of_end (by decide) hword
  rw [expression, bind_of_ok (get_eq _), bind_of_ok hat]
  rfl

theorem otherName_column (c : String × Nat) :
    otherName ⟨(columnTokens c).drop 1 ++ rest, none⟩ = .ok (some c.1, ⟨rest, none⟩) := by
  have hword : isKeyword "AS" ⟨.word, "AS", " "⟩ = true := by decide
  rw [otherName, acceptKeyword]
  show (accept (isKeyword "AS") >>= _) ⟨⟨.word, "AS", " "⟩ :: _, none⟩ = _
  rw [bind_of_ok (accept_of_pass hword)]
  rfl

theorem sourceBetween_column (c : String × Nat) :
    sourceBetween (columnTokens c ++ rest) ((columnTokens c).drop 1 ++ rest) = "?" := by
  have htrim : String.ofList
      ((['?', ' '].dropWhile isWideSpace).reverse.dropWhile isWideSpace).reverse = "?" := by
    decide
  simpa [sourceBetween, columnTokens] using htrim

theorem selected_column {c : String × Nat} (h : Fits c) :
    selected ⟨columnTokens c ++ rest, none⟩ = .ok (selection c, ⟨rest, none⟩) := by
  have hstar : acceptSymbol "*" ⟨columnTokens c ++ rest, none⟩ =
      .ok (false, ⟨columnTokens c ++ rest, none⟩) := accept_of_fail rfl
  have hpeek : peek ⟨columnTokens c ++ rest, none⟩ =
      .ok (⟨.parameter c.2, "?", " "⟩, ⟨columnTokens c ++ rest, none⟩) := rfl
  rw [selected, bind_of_ok (get_eq _), bind_of_ok hstar, if_neg Bool.false_ne_true,
    bind_of_ok hpeek]
  show (expression >>= _) _ = _
  rw [bind_of_ok (expression_column h), bind_of_ok (get_eq _),
    bind_of_ok (otherName_column c), sourceBetween_column]
  rfl

/-- Nothing is left but the token behind the last one. -/
def atEnd : Reading := ⟨[⟨.finish, "", ""⟩], none⟩

theorem separated_columns {c : String × Nat} {columns : List (String × Nat)}
    (h : ∀ d ∈ c :: columns, Fits d) (hfuel : columns.length < fuel) :
    separated selected fuel ⟨columnTokens c ++ moreTokens columns, none⟩ =
      .ok ((c :: columns).map selection, atEnd) := by
  induction columns generalizing c fuel with
  | nil =>
      obtain ⟨fuel, rfl⟩ := Nat.exists_eq_add_one.mpr hfuel
      have hc : Fits c := h c List.mem_cons_self
      have hcomma : acceptSymbol "," atEnd = .ok (false, atEnd) := accept_of_fail rfl
      rw [separated, bind_of_ok (selected_column hc)]
      show (acceptSymbol "," >>= _) atEnd = _
      rw [bind_of_ok hcomma]
      rfl
  | cons d columns ih =>
      obtain ⟨fuel, rfl⟩ := Nat.exists_eq_add_one.mpr (Nat.zero_lt_of_lt hfuel)
      obtain ⟨hc, hrest⟩ := List.forall_mem_cons.mp h
      have hcomma : acceptSymbol "," ⟨moreTokens (d :: columns), none⟩ =
          .ok (true, ⟨columnTokens d ++ moreTokens columns, none⟩) := accept_of_pass rfl
      rw [separated, bind_of_ok (selected_column hc), bind_of_ok hcomma, if_pos rfl,
        bind_of_ok (ih hrest (Nat.succ_lt_succ_iff.mp hfuel))]
      rfl

theorem length_le_moreTokens (columns : List (String × Nat)) :
    columns.length ≤ (moreTokens columns).length := by
  induction columns with
  | nil => exact Nat.zero_le _
  | cons c columns ih =>
      simp only [moreTokens, List.length_cons, List.length_append]
      omega

theorem commaList_columns {c : String × Nat} {columns : List (String × Nat)}
    (h : ∀ d ∈ c :: columns, Fits d) :
    commaList selected ⟨columnTokens c ++ moreTokens columns, none⟩ =
      .ok ((c :: columns).map selection, atEnd) := by
  have hlength := length_le_moreTokens columns
  rw [commaList, bind_of_ok (get_eq _)]
  refine separated_columns h ?_
  rw [List.length_append]
  omega

/-- What the query is read as. -/
def querySelection (columns : List (String × Nat)) : Selection :=
  ⟨false, columns.map selection, [], none, [], none, [], none, none⟩

theorem selectAfter_columns {c : String × Nat} {columns : List (String × Nat)}
    (h : ∀ d ∈ c :: columns, Fits d) :
    selectAfter ⟨columnTokens c ++ moreTokens columns, none⟩ =
      .ok (.select (querySelection (c :: columns)), atEnd) := by
  have hword : ∀ word, acceptKeyword word ⟨columnTokens c ++ moreTokens columns, none⟩ =
      .ok (false, ⟨columnTokens c ++ moreTokens columns, none⟩) := fun word => accept_of_fail rfl
  rw [selectAfter, bind_of_ok (hword _)]
  show (acceptKeyword "ALL" >>= _) _ = _
  rw [bind_of_ok (hword _)]
  show (commaList selected >>= _) _ = _
  rw [bind_of_ok (commaList_columns h)]
  rfl

theorem prepare_queryTokens {name : String} {names : List String}
    (h : (name :: names).length ≤ maxParameter) :
    prepare (queryTokens ((name :: names).map fun n => (n, 0))) =
      .ok ⟨.select (querySelection ((name :: names).zipIdx 1)),
        List.replicate (name :: names).length none⟩ := by
  have hfits : ∀ c ∈ (name :: names).zipIdx 1, Fits c := by
    rintro ⟨n, i⟩ hc
    obtain ⟨hpos, hmost, -⟩ := List.mem_zipIdx hc
    exact ⟨by omega, by omega⟩
  have hbody : commandBody ⟨queryTokens ((name :: names).zipIdx 1), none⟩ =
      .ok (.select (querySelection ((name :: names).zipIdx 1)), atEnd) := by
    have hselect : acceptKeyword "SELECT" ⟨queryTokens ((name :: names).zipIdx 1), none⟩ =
        .ok (true, ⟨columnsTokens ((name :: names).zipIdx 1), none⟩) :=
      accept_of_pass (by decide)
    rw [commandBody, bind_of_ok hselect, if_pos rfl]
    exact selectAfter_columns hfits
  have hcommand : command ⟨queryTokens ((name :: names).zipIdx 1), none⟩ =
      .ok (.select (querySelection ((name :: names).zipIdx 1)), ⟨[], none⟩) := by
    rw [command, bind_of_ok hbody]
    rfl
  rw [prepare, numbered_queryTokens]
  show (command ⟨queryTokens ((name :: names).zipIdx 1), none⟩ >>= _) = _
  rw [hcommand]
  rfl

end

/-! ## Names -/

/-- A column of the result. -/
def resultColumn (c : String × Nat) : ResultColumn := ⟨c.1, true, .parameter c.2⟩

/-- The query made definite. -/
def retrieval (columns : List (String × Nat)) : Retrieval where
  table := noTable
  distinct := false
  columns := columns.map resultColumn
  predicate := none
  groups := []
  having := none
  order := []
  limit := none
  offset := none
  isSummary := false

theorem ok_bind {ε α β : Type} {r : Except ε α} {f : α → Except ε β} {x : α} (h : r = .ok x) :
    r >>= f = f x := by
  rw [h]
  rfl

theorem starFault?_columns (names : Names) (columns : List (String × Nat)) :
    starFault? names (columns.map selection) = none := by
  rw [starFault?, List.foldl_map]
  exact List.foldl_fixed' (fun _ => rfl) columns

theorem resultColumns_columns (names : Names) (columns : List (String × Nat)) :
    resultColumns names (columns.map selection) = .ok (columns.map resultColumn) := by
  induction columns with
  | nil => rfl
  | cons c columns ih =>
      have hterm : names.term (.parameter c.2) = .ok (.parameter c.2) := by
        rw [Names.term, Names.resolve]
        rfl
      rw [List.map_cons, selection, resultColumns, ok_bind hterm, ok_bind ih]
      rfl

theorem wholeFaultOfAny?_columns (columns : List (String × Nat)) :
    wholeFaultOfAny? ((columns.map resultColumn).map ResultColumn.value) = none := by
  induction columns with
  | nil => rfl
  | cons c columns ih =>
      rw [List.map_cons, List.map_cons, wholeFaultOfAny?, ih]
      rfl

theorem ofSelection_columns (tables : List Table) {columns : List (String × Nat)}
    (h : columns.length ≤ maxColumns) :
    Retrieval.ofSelection tables (querySelection columns) = .ok (retrieval columns) := by
  have hsummary :
      (columns.map resultColumn).any (fun r => (summaryIn? r.value).isSome) = false := by
    rw [List.any_map]
    exact List.any_eq_false.mpr fun c _ => Bool.false_ne_true
  have hlength : ¬ maxColumns < (columns.map resultColumn).length := by
    rw [List.length_map]
    omega
  have hstar : refuse (starFault? {} (columns.map selection)) = .ok () := by
    rw [starFault?_columns]
    rfl
  have hnames : queryTables tables [] = .ok {} := rfl
  have hkeys (names : Names) (byName : Bool) (clause : String) :
      orderedByAll names (columns.map resultColumn) byName clause [] = .ok [] := rfl
  have hwhole : refuse (wholeFaultOfAny?
      ((columns.map resultColumn).map ResultColumn.value ++ [] ++ [] ++ [] ++ [])) = .ok () := by
    rw [List.append_nil, List.append_nil, List.append_nil, List.append_nil,
      wholeFaultOfAny?_columns]
    rfl
  -- check after check, each on the columns or on what the query does not have
  rw [Retrieval.ofSelection, querySelection, ok_bind hnames, ok_bind hstar]
  simp only [Option.mapM_none, pure_bind, List.map_nil]
  rw [ok_bind (resultColumns_columns _ _), if_neg hlength, ok_bind (hkeys _ _ _),
    ok_bind (hkeys _ _ _), hsummary]
  exact ok_bind hwhole

/-! ## The row -/

theorem values_map {α : Type} {s : Situation} {f : α → Term} {g : α → Datum}
    (h : ∀ a, Expression.value s (f a) = .ok (g a)) (as : List α) :
    Expression.values s (as.map f) = .ok (as.map g) := by
  induction as with
  | nil => rw [List.map_nil, List.map_nil, Expression.values]
  | cons a as ih =>
      rw [List.map_cons, Expression.values, ok_bind (h a), ok_bind ih]
      rfl

/-- The parameters numbered from one on are all there are, in their order. -/
theorem map_parameter_zipIdx {s : Situation} {names : List String}
    (h : s.parameters.length = names.length) :
    (names.zipIdx 1).map (fun c => s.parameter c.2) = s.parameters := by
  refine List.ext_getElem (by simp [h]) fun i hi hparameter => ?_
  simp [Situation.parameter, hparameter]

theorem run_retrieval {names : List String} {parameters : List Datum}
    (h : parameters.length = names.length) :
    (retrieval (names.zipIdx 1)).run parameters = .ok [names.zip parameters] := by
  let q := retrieval (names.zipIdx 1)
  let s : Situation := { table := q.table, parameters := parameters }
  have hnames : q.columns.map ResultColumn.name = names := by
    show ((names.zipIdx 1).map resultColumn).map ResultColumn.name = names
    rw [List.map_map]
    exact List.zipIdx_map_fst 1 names
  have hvalues : Expression.values { s with row := some ⟨0, []⟩ }
      (q.columns.map ResultColumn.value) = .ok parameters := by
    have hvalue (c : String × Nat) : Expression.value { s with row := some ⟨0, []⟩ }
        (ResultColumn.value (resultColumn c)) = .ok (s.parameter c.2) := by
      rw [resultColumn, Expression.value]
      rfl
    show Expression.values _ (((names.zipIdx 1).map resultColumn).map ResultColumn.value) = _
    rw [List.map_map]
    exact (values_map hvalue _).trans (congrArg _ (map_parameter_zipIdx h))
  -- a query without tables visits one row, and that row has no cells
  have hwindow : window s q = .ok (0, none) := rfl
  have hmatched : q.matchedRows s = .ok [⟨0, []⟩] := rfl
  have hcomputed : [{ s with row := some ⟨0, []⟩ }].mapM (fun s => do
      let values ← Expression.values s (q.columns.map ResultColumn.value)
      return (← Expression.values s (q.order.map SortTerm.key), values)) =
        .ok [([], parameters)] := by
    rw [List.mapM_cons, hvalues]
    rfl
  have hsorted : sortedBy q.order [(([] : List Datum), parameters)] = [([], parameters)] :=
    List.mergeSort_singleton _
  show (window s q >>= _) = _
  rw [ok_bind hwindow, if_neg (by simp), ok_bind hmatched]
  dsimp only
  rw [if_neg (show ¬ q.isSummary = true from Bool.false_ne_true), pure_bind, List.map_singleton]
  refine (ok_bind hcomputed).trans ?_
  show Except.ok ((inWindow (0, none) (sortedBy q.order [([], parameters)])).map fun row =>
    (q.columns.map ResultColumn.name).zip row.2) = _
  rw [hsorted, hnames]
  rfl

/-! ## The whole -/

/-- The query is one statement, with a parameter for each name; made definite, it gives the
parameters as one row, in order and under the names. -/
theorem exists_retrieval {names : List String} (hnames : names ≠ [])
    (hlength : names.length ≤ maxColumns) (hnul : ∀ name ∈ names, '\x00' ∉ name.toList)
    (tables : List Table) :
    ∃ ts selection q, statements (query names) = [ts] ∧
      prepare ts = .ok ⟨.select selection, List.replicate names.length none⟩ ∧
      Retrieval.ofSelection tables selection = .ok q ∧
      ∀ parameters : List Datum, parameters.length = names.length →
        q.run parameters = .ok [names.zip parameters] := by
  obtain ⟨name, names, rfl⟩ := List.exists_cons_of_ne_nil hnames
  refine ⟨_, _, _, statements_query hnul, prepare_queryTokens ?_, ofSelection_columns tables ?_,
    fun _ => run_retrieval⟩
  · exact hlength.trans (by decide)
  · rwa [List.length_zipIdx]

end Echo

end SqlChain.Sqlite
