import SqlChain.Proofs.Inlined
import SqlChain.Proofs.Sorting

/-!
# Characters beyond ASCII in inlined text

The grammars spell their names in ASCII, and to SQLite that matters: there every
character beyond ASCII is a letter. But the grammars let through any white space there
is, and where case does not matter the long s is an s. This file says which characters
beyond ASCII can be written out, namely these and no others, and where they can stand:
around the names and never in them.

So text with a no-break space in it is two words to the grammar and one name to SQLite.
-/

namespace SqlChain

/-- All characters are ASCII. -/
def Text.IsAscii (s : String) : Prop := ∀ c ∈ s.toList, c.toNat < 128

-- Not found by inference, which would go through all characters there are.
instance (s : String) : Decidable (Text.IsAscii s) := List.decidableBAll _ _

namespace Identifier

open Text (isBlank)

theorem toNat_lt_of_isIdentifierPart {c : Char} (h : isIdentifierPart c = true) :
    c.toNat < 128 := by
  have hrange := toNat_of_isIdentifierPart h
  omega

theorem isAscii_of_isIdentifier {s : String} (h : isIdentifier s = true) : Text.IsAscii s :=
  fun _ hc => toNat_lt_of_isIdentifierPart (isIdentifierPart_of_isIdentifier h hc)

theorem isBlank_of_isListPart {c : Char} (h : isListPart c = true) (hc : 128 ≤ c.toNat) :
    isBlank c = true := by
  rw [isListPart, Bool.or_eq_true, Bool.or_eq_true, beq_iff_eq] at h
  rcases h with (hpart | hblank) | rfl
  · exact absurd hc (Nat.not_le.mpr (toNat_lt_of_isIdentifierPart hpart))
  · exact hblank
  · exact absurd hc (by decide)

theorem isBlank_of_isHavingPart {c : Char} (h : isHavingPart c = true) (hc : 128 ≤ c.toNat) :
    isBlank c = true := by
  rw [isHavingPart, Bool.or_eq_true, Bool.or_eq_true, decide_eq_true_eq] at h
  rcases h with (hname | hblank) | hother
  · have hpart : isNamePart c = true := Bool.or_eq_true_iff.mpr (.inl hname)
    have hlt := toNat_lt_of_isIdentifierPart (isIdentifierPart_of_isNamePart hpart)
    exact absurd hc (Nat.not_le.mpr hlt)
  · exact hblank
  · have hascii : Text.IsAscii "_.*(),<>=!+%" := by decide
    exact absurd hc (Nat.not_le.mpr (hascii c hother))

theorem isBlank_or_eq_of_isOrderPart {c : Char} (h : isOrderPart c = true)
    (hc : 128 ≤ c.toNat) : isBlank c = true ∨ c = 'ſ' := by
  rw [isOrderPart, Bool.or_eq_true, Bool.or_eq_true, beq_iff_eq] at h
  rcases h with (hpart | hblank) | hlong
  · exact absurd hc (Nat.not_le.mpr (toNat_lt_of_isIdentifierPart hpart))
  · exact .inl hblank
  · exact .inr hlong

end Identifier

namespace Descriptor

open Identifier (isIdentifier SortingTerm Spells)

variable {d : Descriptor}

/-- Beyond ASCII there is white space only, and the long s in a term of ORDER BY. -/
theorem beyond_ascii_of_mem_inlinedTexts (hs : d.clauseStyle = .inline) (hv : d.IsValid)
    {s : String} (hmem : s ∈ d.inlinedTexts) {c : Char} (hc : c ∈ s.toList)
    (hbeyond : 128 ≤ c.toNat) : Text.isBlank c = true ∨ (c = 'ſ' ∧ s ∈ d.orderBy) := by
  obtain ⟨hgroupBy, hhaving, horderBy⟩ := hv.inlined hs
  rcases List.mem_append.mp hmem with hmem | hmem
  · rcases List.mem_append.mp hmem with hmem | hmem
    · have hlist := hgroupBy s (Option.mem_toList.mp hmem)
      exact .inl (Identifier.isBlank_of_isListPart
        (Identifier.isListPart_of_isIdentifierList hlist hc) hbeyond)
    · have htext := hhaving s (Option.mem_toList.mp hmem)
      exact .inl (Identifier.isBlank_of_isHavingPart
        (Identifier.isHavingPart_of_isHavingText htext hc) hbeyond)
  · have hpart := Identifier.isOrderPart_of_isOrderTerm (horderBy s hmem) hc
    exact (Identifier.isBlank_or_eq_of_isOrderPart hpart hbeyond).imp_right fun h => ⟨h, hmem⟩

theorem isAscii_of_mem_inlinedWords : ∀ word ∈ inlinedWords, Text.IsAscii word := by decide

/-- What is written out is ASCII if no white space in it is other, and no direction has a
long s. -/
theorem isAscii_inlinedText_iff (hs : d.clauseStyle = .inline) (hv : d.IsValid) :
    Text.IsAscii d.inlinedText ↔
      (∀ s ∈ d.inlinedTexts, ∀ c ∈ s.toList, Text.isBlank c = true → c.toNat < 128) ∧
        ∀ s ∈ d.orderBy, 'ſ' ∉ s.toList := by
  have htexts : Text.IsAscii d.inlinedText ↔ ∀ s ∈ d.inlinedTexts, ∀ c ∈ s.toList, c.toNat < 128 :=
    forall_mem_inlinedText_iff isAscii_of_mem_inlinedWords
  rw [htexts]
  constructor
  · intro h
    refine ⟨fun s hmem c hc _ => h s hmem c hc, fun s hmem hlong => ?_⟩
    exact absurd (h s (List.mem_append_right _ hmem) 'ſ' hlong) (by decide)
  · rintro ⟨hblank, hlong⟩ s hmem c hc
    by_contra hle
    have hbeyond : 128 ≤ c.toNat := Nat.not_lt.mp hle
    rcases beyond_ascii_of_mem_inlinedTexts hs hv hmem hc hbeyond with h | ⟨rfl, horder⟩
    · exact hle (hblank s hmem c hc h)
    · exact hlong s horder hc

theorem beyond_ascii_of_mem_inlinedText (hs : d.clauseStyle = .inline) (hv : d.IsValid) {c : Char}
    (hc : c ∈ d.inlinedText.toList) (hbeyond : 128 ≤ c.toNat) :
    Text.isBlank c = true ∨ c = 'ſ' := by
  have hall : ∀ c ∈ d.inlinedText.toList, 128 ≤ c.toNat → Text.isBlank c = true ∨ c = 'ſ' := by
    refine (forall_mem_inlinedText_iff fun word hword c hc hbeyond => ?_).mpr
      fun s hmem c hc hbeyond => ?_
    · exact absurd (isAscii_of_mem_inlinedWords word hword c hc) (Nat.not_lt.mpr hbeyond)
    · exact (beyond_ascii_of_mem_inlinedTexts hs hv hmem hc hbeyond).imp_right And.left
  exact hall c hc hbeyond

end Descriptor

namespace Query

open Identifier (isIdentifier Spells)

variable {κ : Type}

/-- To the grammar of HAVING white space is an expression. -/
theorem exists_having_blank {c : Char} (hc : Text.isBlank c = true) :
    ∃ ts, ∃ q : Query κ, Reachable ts q ∧ q.descriptor.clauseStyle = .inline ∧
      q.descriptor.IsValid ∧ c ∈ q.descriptor.inlinedText.toList := by
  let root : Descriptor := { fromTable := some "users", clauseStyle := .inline }
  let expression := String.singleton c
  let d : Descriptor := { root with having := some expression }
  have hroot : root.IsValid := by decide
  have haccepted : Identifier.isHavingText expression = true := by
    simp [expression, Identifier.isHavingText, Identifier.isHavingPart, hc]
  have ht : root.Becomes (.having expression) d := .having expression
  have hv : d.IsValid := (hroot.violation?_of_becomes ht trivial).trans
    (Descriptor.checkText_eq_none_iff.mpr haccepted)
  have hmem : c ∈ d.inlinedText.toList := by
    show c ∈ ("" ++ (" HAVING " ++ expression) ++ "").toList
    simp [expression]
  let options : Options κ := { table := some "users", clauseStyle := .inline }
  have hcall : (ofOptions options).apply (.having expression) = .ok ⟨d, options⟩ := rfl
  exact ⟨_, ⟨d, options⟩, .call (.ofOptions options) hcall, rfl, hv, hmem⟩

/-- To the grammar of ORDER BY the long s is an s. -/
theorem exists_orderBy_long_s :
    ∃ ts, ∃ q : Query κ, Reachable ts q ∧ q.descriptor.clauseStyle = .inline ∧
      q.descriptor.IsValid ∧ 'ſ' ∈ q.descriptor.inlinedText.toList := by
  let d : Descriptor :=
    { fromTable := some "users", orderBy := ["age deſc"], clauseStyle := .inline }
  have hv : d.IsValid := by decide
  have hmem : 'ſ' ∈ d.inlinedText.toList := by decide
  let options : Options κ := { table := some "users", clauseStyle := .inline }
  have hcall : (ofOptions options).apply (.orderBy (.written "age deſc")) = .ok ⟨d, options⟩ := rfl
  exact ⟨_, ⟨d, options⟩, .call (.ofOptions options) hcall, rfl, hv, hmem⟩

/-- Which characters beyond ASCII are written out of accepted texts: white space of any
kind, and the long s. What is written out stands in the statement as it is, behind the
predicate. It is ASCII exactly if the texts have neither, and
the names in it are ASCII in any case: white space stands around them, and the long s in a
direction. -/
theorem inlinedText_beyond_ascii :
    (∀ c : Char, 128 ≤ c.toNat →
        ((∃ ts, ∃ q : Query κ, Reachable ts q ∧ q.descriptor.clauseStyle = .inline ∧
            q.descriptor.IsValid ∧ c ∈ q.descriptor.inlinedText.toList) ↔
          Text.isBlank c = true ∨ c = 'ſ')) ∧
      ∀ d : Descriptor, d.clauseStyle = .inline → d.IsValid →
        d.compile.sql =
            d.head.text ++ d.whereTail.text ++ d.inlinedText ++
              (d.limitTail.text ++ d.offsetTail.text) ∧
        (Text.IsAscii d.inlinedText ↔
          (∀ s ∈ d.inlinedTexts, ∀ c ∈ s.toList, Text.isBlank c = true → c.toNat < 128) ∧
            ∀ s ∈ d.orderBy, 'ſ' ∉ s.toList) ∧
        (∀ columns, d.groupBy = some columns →
          ∀ piece ∈ (columns.split ',').toList.map (·.copy), Text.IsAscii (Text.trim piece)) ∧
        ∀ s ∈ d.orderBy, ∃ name rest : String, Text.trim s = name ++ rest ∧
          isIdentifier name = true ∧ Text.IsAscii name ∧
          (rest = "" ∨ ∃ gap word : String, rest = gap ++ word ∧
            (∀ c ∈ gap.toList, Text.isBlank c = true) ∧
            (Spells "ASC" word.toList ∨ Spells "DESC" word.toList)) := by
  refine ⟨fun c hbeyond => ⟨?_, ?_⟩, fun d hs hv => ⟨Descriptor.sql_of_inline hs, ?_, ?_, ?_⟩⟩
  · rintro ⟨ts, q, -, hs, hv, hc⟩
    exact Descriptor.beyond_ascii_of_mem_inlinedText hs hv hc hbeyond
  · rintro (hblank | rfl)
    · exact exists_having_blank hblank
    · exact exists_orderBy_long_s
  · exact Descriptor.isAscii_inlinedText_iff hs hv
  · intro columns hcolumns piece hpiece
    have hlist := (hv.inlined hs).1 columns hcolumns
    exact Identifier.isAscii_of_isIdentifier
      (Identifier.isIdentifierList_iff.mp hlist piece hpiece)
  · intro s hmem
    have hterm := Identifier.isOrderTerm_iff.mp ((hv.inlined hs).2.2 s hmem)
    rcases hterm with h | ⟨name, gap, word, htrim, hname, -, hgap, hword⟩
    · exact ⟨Text.trim s, "", (String.append_empty).symm, h,
        Identifier.isAscii_of_isIdentifier h, .inl rfl⟩
    · exact ⟨name, gap ++ word, by rw [htrim, String.append_assoc], hname,
        Identifier.isAscii_of_isIdentifier hname, .inr ⟨gap, word, rfl, hgap, hword⟩⟩

/-- The same clauses with and without characters beyond ASCII. -/
theorem inlinedText_beyond_ascii_users :
    let plain : Descriptor :=
      { fromTable := some "users", groupBy := some "age,\tname", orderBy := ["age Desc"],
        clauseStyle := .inline }
    let d : Descriptor :=
      { plain with groupBy := some "age,\u3000name", orderBy := ["age\u00a0Deſc"] }
    plain.IsValid ∧ Text.IsAscii plain.inlinedText ∧ d.IsValid ∧ ¬ Text.IsAscii d.inlinedText ∧
      d.compile.sql = "SELECT * FROM users" ++ d.inlinedText ∧
      (∀ piece ∈ ("age,\u3000name".split ',').toList.map (·.copy), Text.IsAscii (Text.trim piece)) ∧
      ∃ ts, ∃ q : Query Unit, Reachable ts q ∧ q.descriptor.clauseStyle = .inline ∧
        q.descriptor.IsValid ∧ '\u3000' ∈ q.descriptor.inlinedText.toList := by
  intro plain d
  obtain ⟨hcharacters, hqueries⟩ := inlinedText_beyond_ascii (κ := Unit)
  have hplain : plain.IsValid := by decide
  have hv : d.IsValid := by decide
  obtain ⟨-, hascii, -⟩ := hqueries plain rfl hplain
  obtain ⟨hsql, hbeyond, hcolumns, -⟩ := hqueries d rfl hv
  have htexts : ∀ s ∈ plain.inlinedTexts, Text.IsAscii s := by decide
  refine ⟨hplain, hascii.mpr ⟨fun s hs c hc _ => htexts s hs c hc, by decide⟩, hv, ?_, ?_,
    hcolumns _ rfl, (hcharacters '\u3000' (by decide)).mpr (.inl (by decide))⟩
  · rw [hbeyond]
    rintro ⟨-, hlong⟩
    exact absurd (hlong "age\u00a0Deſc" (by decide)) (by decide)
  · have hhead : d.head.text ++ d.whereTail.text = "SELECT * FROM users" := by decide
    have hend : d.limitTail.text ++ d.offsetTail.text = "" := rfl
    rw [hsql, hhead, hend, String.append_empty]

/-- A no-break space is a gap to the grammar: it is accepted before a direction, and written
out as it is. -/
theorem exists_isValid_beyond_ascii :
    let root : Query Unit := ofOptions { table := some "users", clauseStyle := .inline }
    ∃ q, root.chain [.orderBy (.written "age\u00a0DESC")] = .ok q ∧ q.descriptor.IsValid ∧
      q.sql = "SELECT * FROM users ORDER BY age\u00a0DESC" ∧
      ¬ Text.IsAscii q.descriptor.inlinedText := by
  intro root
  exact ⟨_, rfl, by decide, by decide, by decide⟩

end Query

end SqlChain
