import SqlChain.Proofs.Clients
import SqlChain.Proofs.Grammar

/-!
# Asking for the columns of a table

The name of a table goes into its statement as it is, with nothing around it but a pair of
parentheses. What keeps it from being more than a name is one check, and the check is put
together of two: the text has to be an identifier, which may be qualified and may end in a
star, and it must not end in a star. What passes both is a name or two names with a point
between them, and none of their characters means anything to SQL.

The check comes before anything else, also before the client is looked for. So a text that
names no table is refused in the same way by every query, and nobody hears of it, the log
included. The query brings the client and nothing more.
-/

namespace SqlChain

/-! ## The names of tables -/

namespace Identifier

/-- A name, perhaps behind the name of a schema and a point. -/
def IsTableName (s : String) : Prop :=
  SimpleName s ∨
    ∃ schema name, s = schema ++ "." ++ name ∧ SimpleName schema ∧ SimpleName name

variable {s : String} {c : Char}

theorem SimpleName.isNamePart (hs : SimpleName s) (hc : c ∈ s.toList) : isNamePart c = true := by
  obtain ⟨first, rest, hlist, hfirst, hrest⟩ := hs
  rw [hlist] at hc
  rcases List.mem_cons.mp hc with rfl | hc
  · exact isNamePart_iff.mpr (.inl hfirst)
  · exact isNamePart_iff.mpr (hrest c hc)

theorem IsTableName.isNamePart_or_point (hs : IsTableName s) (hc : c ∈ s.toList) :
    isNamePart c = true ∨ c = '.' := by
  rcases hs with hs | ⟨schema, name, rfl, hschema, hname⟩
  · exact .inl (hs.isNamePart hc)
  · rw [String.toList_append, String.toList_append, List.mem_append, List.mem_append] at hc
    rcases hc with (hc | hc) | hc
    · exact .inl (hschema.isNamePart hc)
    · exact .inr (List.mem_singleton.mp hc)
    · exact .inl (hname.isNamePart hc)

/-- Whatever is neither part of a name nor a point stands nowhere in the name of a table. -/
theorem IsTableName.not_mem (hs : IsTableName s) (hpart : isNamePart c = false) (hne : c ≠ '.') :
    c ∉ s.toList := by
  intro hc
  rcases hs.isNamePart_or_point hc with h | h
  · rw [hpart] at h
    cases h
  · exact hne h

theorem IsTableName.isBlank (hs : IsTableName s) (hc : c ∈ s.toList) : Text.isBlank c = false := by
  rcases hs.isNamePart_or_point hc with h | rfl
  · exact isBlank_of_isIdentifierPart (isIdentifierPart_of_isNamePart h)
  · decide

end Identifier

open Identifier (IsTableName)

/-- The two checks let through what names a table, and nothing else. -/
theorem Query.namesTable_iff {table : String} : namesTable table = true ↔ IsTableName table := by
  rw [namesTable, Bool.and_eq_true, Identifier.isIdentifier_iff, bne_iff_ne]
  constructor
  · rintro ⟨hs | ⟨schema, member, rfl, hschema, hname | rfl⟩, hlast⟩
    · exact .inl hs
    · exact .inr ⟨schema, member, rfl, hschema, hname⟩
    · exact absurd (by simp) hlast
  · intro h
    have hstar : '*' ∉ table.toList := h.not_mem (by decide) (by decide)
    refine ⟨?_, fun hlast => hstar (List.mem_of_getLast? hlast)⟩
    rcases h with hs | ⟨schema, name, rfl, hschema, hname⟩
    · exact .inl hs
    · exact .inr ⟨schema, name, rfl, hschema, .inl hname⟩

/-! ## The text of the statement -/

/-- Quotes, the end of a statement, what comments begin with and the placeholder. -/
def Text.hazards : List Char := "'\"`[];-/?".toList

/-- The text has one pair of parentheses, the white space of `front` and none besides, and
nothing that would quote, end, comment out or bind. -/
structure IsPlainCall (front sql : String) : Prop where
  starts : ∃ rest, sql = front ++ rest
  opened : sql.toList.count '(' = 1
  closed : sql.toList.count ')' = 1
  blanks : sql.toList.filter Text.isBlank = front.toList.filter Text.isBlank
  plain : ∀ c ∈ Text.hazards, c ∉ sql.toList

theorem isPlainCall_tableInfo {table : String} (h : IsTableName table) :
    IsPlainCall "PRAGMA " ("PRAGMA table_info(" ++ table ++ ")") := by
  have hlist : ("PRAGMA table_info(" ++ table ++ ")").toList =
      "PRAGMA table_info(".toList ++ table.toList ++ [')'] := by
    rw [String.toList_append, String.toList_append]
    rfl
  have hopen : table.toList.count '(' = 0 :=
    List.count_eq_zero.mpr (h.not_mem (by decide) (by decide))
  have hclose : table.toList.count ')' = 0 :=
    List.count_eq_zero.mpr (h.not_mem (by decide) (by decide))
  have hblank : table.toList.filter Text.isBlank = [] :=
    List.filter_eq_nil_iff.mpr fun c hc => Bool.eq_false_iff.mp (h.isBlank hc)
  constructor
  case starts =>
    refine ⟨"table_info(" ++ table ++ ")", ?_⟩
    rw [← String.append_assoc, ← String.append_assoc]
    rfl
  case opened =>
    rw [hlist, List.count_append, List.count_append, hopen]
    decide
  case closed =>
    rw [hlist, List.count_append, List.count_append, hclose]
    decide
  case blanks =>
    rw [hlist, List.filter_append, List.filter_append, hblank]
    decide
  case plain =>
    have hparts : ∀ c ∈ Text.hazards, (!Identifier.isNamePart c && c != '.') = true :=
      List.all_eq_true.mp (by decide)
    have hframe : ∀ c ∈ Text.hazards, decide (c ∉ "PRAGMA table_info(".toList ++ [')']) = true :=
      List.all_eq_true.mp (by decide)
    intro c hc hmem
    obtain ⟨hpart, hpoint⟩ := Bool.and_eq_true_iff.mp (hparts c hc)
    have hname : c ∉ table.toList :=
      h.not_mem (Bool.not_eq_true' _ |>.mp hpart) (bne_iff_ne.mp hpoint)
    apply of_decide_eq_true (hframe c hc)
    rw [hlist, List.mem_append, List.mem_append] at hmem
    rcases hmem with (hmem | hmem) | hmem
    · exact List.mem_append_left _ hmem
    · exact absurd hmem hname
    · exact List.mem_append_right _ hmem

/-! ## Who is asked -/

namespace Query

variable {κ σ : Type} {table : String}

theorem checkText_of_isTableName (h : IsTableName table) :
    Descriptor.checkText .tableInfo namesTable table = none := by
  rw [Descriptor.checkText, if_pos (namesTable_iff.mpr h)]

theorem tableInfo_of_isTableName (h : IsTableName table) (b : Backend κ σ) (fallback : Option κ)
    (q : Query κ) (before : σ) :
    q.tableInfo b fallback table before =
      q.rawAll b fallback (fun row => ColumnInfo.read (.object row)) (tableInfoStatement table)
        before := by
  rw [tableInfo, if_pos (namesTable_iff.mpr h)]

theorem tableInfo_of_not_isTableName (h : ¬ IsTableName table) (b : Backend κ σ)
    (fallback : Option κ) (q : Query κ) (before : σ) :
    q.tableInfo b fallback table before =
      ⟨.error (.invalid (.unsafeClause .tableInfo table)), [], before⟩ := by
  rw [tableInfo, if_neg (fun hn => h (namesTable_iff.mp hn))]

/-- The query brings its options and nothing more. -/
theorem tableInfo_congr (b : Backend κ σ) (fallback : Option κ) {q r : Query κ}
    (h : r.options = q.options) (table : String) (before : σ) :
    r.tableInfo b fallback table before = q.tableInfo b fallback table before := by
  have hperform : ∀ s, r.perform b fallback .all s before = q.perform b fallback .all s before := by
    intro s
    rw [perform, perform, client?, client?, h]
  rw [tableInfo, tableInfo, rawAll, rawAll, hperform]

theorem tableInfo_events (b : Backend κ σ) (fallback : Option κ) (q : Query κ) (before : σ)
    (h : IsTableName table) {c : κ} (hc : q.options.database.or fallback = some c) :
    ∃ rest, (q.tableInfo b fallback table before).events =
        .executing (tableInfoStatement table) ::
          .called c (.prepare (tableInfoStatement table).sql) :: rest ∧
      (rest = [] ∨ rest = [.called c (.bind []), .called c (.request .all)]) := by
  have hserved := (tableInfo_goesTo b fallback q table before).served
    (checkText_of_isTableName h) c hc
  rcases hserved with hevents | hevents
  · exact ⟨[], hevents, .inl rfl⟩
  · exact ⟨_, hevents, .inr rfl⟩

theorem exists_called_tableInfo_iff (b : Backend κ σ) (fallback : Option κ) (q : Query κ)
    (table : String) (before : σ) :
    (∃ c call, .called c call ∈ (q.tableInfo b fallback table before).events) ↔
      IsTableName table ∧ (q.options.database.or fallback).isSome = true := by
  by_cases h : IsTableName table
  · cases hc : q.options.database.or fallback with
    | none =>
        have hunconfigured := (tableInfo_goesTo b fallback q table before).unconfigured
          (checkText_of_isTableName h) hc
        rw [hunconfigured.2.1]
        simp
    | some c =>
        obtain ⟨rest, hevents, -⟩ := tableInfo_events b fallback q before h hc
        refine iff_of_true ⟨c, .prepare (tableInfoStatement table).sql, ?_⟩ ⟨h, rfl⟩
        rw [hevents]
        exact List.mem_cons_of_mem _ List.mem_cons_self
  · rw [tableInfo_of_not_isTableName h]
    exact iff_of_false (by simp) fun hn => h hn.1

/-- A client is asked about a table exactly if there is one and the text is a name or two names
with a point between them. It is asked once, by a statement without parameters in which the name
is all that the caller has written and can be nothing but a name. Any other text is refused
before the client is looked for, and neither a client nor the log hears of it. What the query is
about does not matter, nor whether it is valid. -/
theorem tableInfo_injection_safe (b : Backend κ σ) (fallback : Option κ) (q : Query κ)
    (table : String) (before : σ) :
    let client := q.options.database.or fallback
    let sql := "PRAGMA table_info(" ++ table ++ ")"
    let o := q.tableInfo b fallback table before
    ((∃ c call, .called c call ∈ o.events) ↔ IsTableName table ∧ client.isSome = true) ∧
      (IsTableName table →
        IsPlainCall "PRAGMA " sql ∧
          Protocol b none client ⟨sql, []⟩ .all
            (readRows fun row => ColumnInfo.read (.object row)) before o ∧
          ∀ c, client = some c →
            ∃ rest, o.events = .executing ⟨sql, []⟩ :: .called c (.prepare sql) :: rest ∧
              (rest = [] ∨ rest = [.called c (.bind []), .called c (.request .all)])) ∧
      (¬ IsTableName table →
        o = ⟨.error (.invalid (.unsafeClause .tableInfo table)), [], before⟩) ∧
      ∀ d : Descriptor,
        ({ q with descriptor := d } : Query κ).tableInfo b fallback table before = o := by
  intro client sql o
  refine ⟨exists_called_tableInfo_iff b fallback q table before, fun h => ⟨isPlainCall_tableInfo h,
    ?protocol, fun c hc => tableInfo_events b fallback q before h hc⟩,
    fun h => tableInfo_of_not_isTableName h b fallback q before,
    fun d => tableInfo_congr b fallback rfl table before⟩
  case protocol =>
    have hprotocol := perform_protocol b fallback q .all (tableInfoStatement table) before
    have ho : o = q.rawAll b fallback (fun row => ColumnInfo.read (.object row))
        (tableInfoStatement table) before := tableInfo_of_isTableName h b fallback q before
    rw [ho]
    exact hprotocol.andThen _

/-- A DELETE that is not valid asks about a table of the main schema all the same. A text that
ends the statement and begins another one is refused, and so is a star where there is no client. -/
theorem tableInfo_injection_safe_users :
    let own : Script := { name := "own" }
    let q : Query Script := ⟨{ mode := some .delete }, { database := some own }⟩
    let sql := "PRAGMA table_info(main.users)"
    let attack := "x); DROP TABLE users; --"
    q.violation?.isSome = true ∧
      (q.tableInfo Script.backend none "main.users" ()).events =
        [.executing ⟨sql, []⟩, .called own (.prepare sql), .called own (.bind []),
          .called own (.request .all)] ∧
      sql.toList.count ')' = 1 ∧
      (q.tableInfo Script.backend none attack ()).result =
        .error (.invalid (.unsafeClause .tableInfo attack)) ∧
      (∀ c call, .called c call ∉ (q.tableInfo Script.backend none attack ()).events) ∧
      (new.tableInfo Script.backend none "users.*" ()).result =
        .error (.invalid (.unsafeClause .tableInfo "users.*")) := by
  intro own q sql attack
  have husers : IsTableName "main.users" := namesTable_iff.mp (by decide)
  have hattack : ¬ IsTableName attack := fun h => absurd (namesTable_iff.mpr h) (by decide)
  have hstar : ¬ IsTableName "users.*" := fun h => absurd (namesTable_iff.mpr h) (by decide)
  obtain ⟨-, hnamed, -, -⟩ := tableInfo_injection_safe Script.backend none q "main.users" ()
  obtain ⟨hplain, hprotocol, -⟩ := hnamed husers
  obtain ⟨hcalled, -, hrefused, -⟩ := tableInfo_injection_safe Script.backend none q attack ()
  obtain ⟨-, -, hunasked, -⟩ := tableInfo_injection_safe Script.backend none new "users.*" ()
  refine ⟨by decide, (hprotocol.answered rfl own rfl () _ _ rfl rfl).2.1, hplain.closed,
    congrArg Outcome.result (hrefused hattack), fun c call h => ?_,
    congrArg Outcome.result (hunasked hstar)⟩
  exact hattack (hcalled.mp ⟨c, call, h⟩).1

end Query

end SqlChain
