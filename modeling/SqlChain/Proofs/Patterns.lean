import SqlChain.Proofs.Sorting

/-!
# The patterns behind the recognisers

What may be written out is told by four regular expressions. The recognisers do not run
them: each takes what it can from the front of a text. This file has the expressions, part
by part, with what it means for a text to match one, and shows of each recogniser that it
accepts exactly what its expression matches.

An expression is anchored at both ends, so it matches a text as a whole. A class of
characters is a list of ranges. `\s` is white space of any kind, and where case does not
matter a letter stands for all characters that differ from it in case only.
-/

namespace SqlChain

/-! ## Regular expressions -/

inductive Regex where
  | empty
  | one (allowed : Char → Prop)
  | seq (front back : Regex)
  | alt (left right : Regex)
  | star (inner : Regex)

namespace Regex

/-- The expression matches the characters. -/
inductive Matches : Regex → List Char → Prop where
  | empty : Matches .empty []
  | one {allowed : Char → Prop} {c : Char} (h : allowed c) : Matches (.one allowed) [c]
  | seq {p q : Regex} {cs back : List Char} :
      Matches p cs → Matches q back → Matches (.seq p q) (cs ++ back)
  | left {p q : Regex} {cs : List Char} : Matches p cs → Matches (.alt p q) cs
  | right {p q : Regex} {cs : List Char} : Matches q cs → Matches (.alt p q) cs
  | done {p : Regex} : Matches (.star p) []
  | more {p : Regex} {cs back : List Char} :
      Matches p cs → Matches (.star p) back → Matches (.star p) (cs ++ back)

def literal (c : Char) : Regex := .one (· = c)

/-- The character is in one of the ranges. -/
def InRanges (ranges : List (Char × Char)) (c : Char) : Prop := ∃ r ∈ ranges, r.1 ≤ c ∧ c ≤ r.2

def blank : Regex := .one (Text.isBlank · = true)

def optional (p : Regex) : Regex := .alt p .empty

def plus (p : Regex) : Regex := .seq p (.star p)

variable {p q : Regex} {allowed : Char → Prop} {cs : List Char}

theorem matches_empty_iff : Matches .empty cs ↔ cs = [] :=
  ⟨fun h => by cases h; rfl, fun h => h ▸ .empty⟩

theorem matches_one_iff : Matches (.one allowed) cs ↔ ∃ c, cs = [c] ∧ allowed c := by
  constructor
  · rintro ⟨⟩
    exact ⟨_, rfl, ‹_›⟩
  · rintro ⟨c, rfl, hc⟩
    exact .one hc

theorem matches_literal_iff {d : Char} : (literal d).Matches cs ↔ cs = [d] := by
  rw [literal, matches_one_iff]
  constructor
  · rintro ⟨c, rfl, rfl⟩
    rfl
  · exact fun h => ⟨d, h, rfl⟩

theorem matches_seq_iff :
    Matches (.seq p q) cs ↔
      ∃ front back, cs = front ++ back ∧ p.Matches front ∧ q.Matches back := by
  constructor
  · rintro ⟨⟩
    exact ⟨_, _, rfl, ‹_›, ‹_›⟩
  · rintro ⟨front, back, rfl, hfront, hback⟩
    exact .seq hfront hback

theorem matches_alt_iff : Matches (.alt p q) cs ↔ p.Matches cs ∨ q.Matches cs := by
  constructor
  · intro h
    cases h with
    | left h => exact .inl h
    | right h => exact .inr h
  · rintro (h | h)
    · exact .left h
    · exact .right h

theorem matches_optional_iff : p.optional.Matches cs ↔ p.Matches cs ∨ cs = [] := by
  rw [optional, matches_alt_iff, matches_empty_iff]

theorem matches_star_one_iff :
    Matches (.star (.one allowed)) cs ↔ ∀ c ∈ cs, allowed c := by
  constructor
  · intro h
    generalize hp : Regex.star (.one allowed) = p at h
    induction h with
    | done => exact fun c hc => nomatch hc
    | more hfirst _ _ ih =>
        cases hp
        obtain ⟨c, rfl, hc⟩ := matches_one_iff.mp hfirst
        exact List.forall_mem_cons.mpr ⟨hc, ih rfl⟩
    | _ => cases hp
  · intro h
    induction cs with
    | nil => exact .done
    | cons c cs ih =>
        obtain ⟨hc, hcs⟩ := List.forall_mem_cons.mp h
        exact Matches.more (.one hc) (ih hcs)

theorem matches_plus_one_iff :
    (plus (.one allowed)).Matches cs ↔ cs ≠ [] ∧ ∀ c ∈ cs, allowed c := by
  rw [plus, matches_seq_iff]
  constructor
  · rintro ⟨front, back, rfl, hfront, hback⟩
    obtain ⟨c, rfl, hc⟩ := matches_one_iff.mp hfront
    exact ⟨List.cons_ne_nil c back, List.forall_mem_cons.mpr ⟨hc, matches_star_one_iff.mp hback⟩⟩
  · rintro ⟨hne, hall⟩
    obtain ⟨c, cs, rfl⟩ := List.exists_cons_of_ne_nil hne
    obtain ⟨hc, hcs⟩ := List.forall_mem_cons.mp hall
    exact ⟨[c], cs, rfl, .one hc, matches_star_one_iff.mpr hcs⟩

theorem matches_blanks_iff :
    Matches (.star blank) cs ↔ ∀ c ∈ cs, Text.isBlank c = true := matches_star_one_iff

/-! ## The four expressions -/

/-- The class `[A-Za-z_]`. -/
def NameStart : Char → Prop := InRanges [('A', 'Z'), ('a', 'z'), ('_', '_')]

/-- The class `[A-Za-z0-9_]`. -/
def NamePart : Char → Prop := InRanges [('A', 'Z'), ('a', 'z'), ('0', '9'), ('_', '_')]

/-- A name: `[A-Za-z_][A-Za-z0-9_]*` -/
def name : Regex := .seq (.one NameStart) (.star (.one NamePart))

/-- An identifier: `NAME(?:\.(?:NAME|\*))?` -/
def identifier : Regex :=
  .seq name (optional (.seq (literal '.') (.alt name (literal '*'))))

/-- One more of a list: `\s*,\s*IDENT` -/
def nextIdentifier : Regex :=
  .seq (.star blank) (.seq (literal ',') (.seq (.star blank) identifier))

/-- A list of identifiers: `\s*IDENT(?:\s*,\s*IDENT)*\s*` -/
def identifierList : Regex :=
  .seq (.star blank) (.seq identifier (.seq (.star nextIdentifier) (.star blank)))

/-- The word, which is in capitals, in any case. -/
def spelled (word : String) : Regex :=
  word.toList.foldr (fun letter p => .seq (.one (Identifier.SameLetter letter)) p) .empty

/-- A direction: `\s+(?i:ASC|DESC)` -/
def direction : Regex := .seq (plus blank) (.alt (spelled "ASC") (spelled "DESC"))

/-- A term to sort by: `\s*IDENT(?:\s+(?i:ASC|DESC))?\s*` -/
def orderTerm : Regex :=
  .seq (.star blank) (.seq identifier (.seq (optional direction) (.star blank)))

/-- The class `[A-Za-z0-9_.*(),<>=!+%\s]`. -/
def HavingPart (c : Char) : Prop :=
  InRanges [('A', 'Z'), ('a', 'z'), ('0', '9'), ('_', '_'), ('.', '.'), ('*', '*'), ('(', '('),
    (')', ')'), (',', ','), ('<', '<'), ('>', '>'), ('=', '='), ('!', '!'), ('+', '+'),
    ('%', '%')] c ∨ Text.isBlank c = true

/-- An expression of HAVING: `[A-Za-z0-9_.*(),<>=!+%\s]+` -/
def having : Regex := plus (.one HavingPart)

end Regex

namespace Text

/-- A text is what is left of it when it is trimmed, with blanks around it. -/
theorem exists_append_trimList (cs : List Char) :
    ∃ front back, cs = front ++ (trimList cs ++ back) ∧ (∀ c ∈ front, isBlank c = true) ∧
      ∀ c ∈ back, isBlank c = true := by
  refine ⟨cs.takeWhile isBlank, (skipBlanks cs).rtakeWhile isBlank, ?_,
    List.all_eq_true.mp List.all_takeWhile, fun _ => List.mem_rtakeWhile_imp⟩
  rw [trimList_append_blanks]
  exact List.takeWhile_append_dropWhile.symm

theorem trimList_between_blanks {front cs back : List Char} (hfront : ∀ c ∈ front, isBlank c = true)
    (hback : ∀ c ∈ back, isBlank c = true) : trimList (front ++ (cs ++ back)) = trimList cs := by
  rw [trimList_blanks_append hfront, trimList_append_of_blanks hback]

end Text

namespace Identifier

open Regex
open Text (isBlank skipBlanks trimList)

variable {cs : List Char} {s : String}

/-! ## Identifiers -/

theorem le_and_le_iff {c d : Char} : d ≤ c ∧ c ≤ d ↔ c = d :=
  ⟨fun h => Char.le_antisymm h.2 h.1, fun h => h ▸ ⟨Char.le_refl c, Char.le_refl c⟩⟩

theorem nameStart_iff {c : Char} : NameStart c ↔ Letter c := by
  simp only [NameStart, InRanges, List.mem_cons, List.not_mem_nil, or_false, exists_eq_or_imp,
    exists_eq_left, le_and_le_iff, Letter]

theorem namePart_iff {c : Char} : NamePart c ↔ Letter c ∨ Digit c := by
  simp only [NamePart, InRanges, List.mem_cons, List.not_mem_nil, or_false, exists_eq_or_imp,
    exists_eq_left, le_and_le_iff, Letter, Digit]
  grind

theorem matches_name_iff : name.Matches s.toList ↔ SimpleName s := by
  rw [name, matches_seq_iff]
  constructor
  · rintro ⟨front, rest, hlist, hfront, hrest⟩
    obtain ⟨first, rfl, hfirst⟩ := matches_one_iff.mp hfront
    exact ⟨first, rest, hlist, nameStart_iff.mp hfirst, fun c hc =>
      namePart_iff.mp (matches_star_one_iff.mp hrest c hc)⟩
  · rintro ⟨first, rest, hlist, hfirst, hrest⟩
    exact ⟨[first], rest, hlist, .one (nameStart_iff.mpr hfirst),
      matches_star_one_iff.mpr fun c hc => namePart_iff.mpr (hrest c hc)⟩

/-- What stands behind the point. -/
theorem matches_member_iff :
    Matches (.alt name (literal '*')) s.toList ↔ SimpleName s ∨ s = "*" := by
  rw [matches_alt_iff, matches_name_iff, matches_literal_iff, ← String.toList_inj]
  rfl

/-- An identifier is what its expression matches. -/
theorem isIdentifier_iff_matches : isIdentifier s = true ↔ identifier.Matches s.toList := by
  rw [isIdentifier_iff, identifier, matches_seq_iff]
  constructor
  · rintro (hs | ⟨front, member, rfl, hfront, hmember⟩)
    · exact ⟨s.toList, [], (List.append_nil _).symm, matches_name_iff.mpr hs,
        matches_optional_iff.mpr (.inr rfl)⟩
    · refine ⟨front.toList, ['.'] ++ member.toList, by simp, matches_name_iff.mpr hfront, ?_⟩
      exact matches_optional_iff.mpr
        (.inl (.seq (matches_literal_iff.mpr rfl) (matches_member_iff.mpr hmember)))
  · rintro ⟨front, back, hlist, hfront, hback⟩
    have hname : SimpleName (String.ofList front) := by
      rwa [← matches_name_iff, String.toList_ofList]
    rcases matches_optional_iff.mp hback with hback | rfl
    · obtain ⟨point, member, rfl, hpoint, hmember⟩ := matches_seq_iff.mp hback
      cases matches_literal_iff.mp hpoint
      refine .inr ⟨String.ofList front, String.ofList member, ?_, hname, ?_⟩
      · rw [← String.toList_inj, hlist]
        simp
      · rwa [← matches_member_iff, String.toList_ofList]
    · refine .inl ?_
      rw [← matches_name_iff, hlist, List.append_nil]
      exact hfront

theorem matches_identifier_iff :
    identifier.Matches cs ↔ isIdentifier (String.ofList cs) = true := by
  rw [isIdentifier_iff_matches, String.toList_ofList]

/-- There are no blanks in an identifier. -/
theorem isBlank_of_matches {c : Char} (h : identifier.Matches cs) (hc : c ∈ cs) :
    isBlank c = false := by
  rw [matches_identifier_iff] at h
  exact isBlank_of_isIdentifierPart
    (isIdentifierPart_of_isIdentifier h (by rwa [String.toList_ofList]))

/-! ## Lists -/

/-- A piece of a list is an identifier with blanks around it. -/
theorem isItem_iff_exists {piece : List Char} :
    IsItem piece ↔ ∃ front name back, piece = front ++ (name ++ back) ∧
      blank.star.Matches front ∧ identifier.Matches name ∧
      blank.star.Matches back := by
  simp only [matches_blanks_iff]
  constructor
  · intro h
    obtain ⟨front, back, hpiece, hfront, hback⟩ := Text.exists_append_trimList piece
    refine ⟨front, trimList piece, back, hpiece, hfront, ?_, hback⟩
    rw [matches_identifier_iff, isIdentifier, String.toList_ofList, beq_iff_eq]
    exact h
  · rintro ⟨front, name, back, rfl, hfront, hname, hback⟩
    have htrim : trimList name = name :=
      Text.trimList_eq_self fun c hc => isBlank_of_matches hname hc
    rw [IsItem, Text.trimList_between_blanks hfront hback, htrim]
    rwa [matches_identifier_iff, isIdentifier, String.toList_ofList, beq_iff_eq] at hname

theorem IsItem.not_mem {piece : List Char} (h : IsItem piece) : ',' ∉ piece := by
  obtain ⟨front, name, back, rfl, hfront, hname, hback⟩ := isItem_iff_exists.mp h
  rw [matches_blanks_iff] at hfront hback
  rw [matches_identifier_iff] at hname
  simp only [List.mem_append, not_or]
  refine ⟨fun hc => ?_, fun hc => ?_, fun hc => ?_⟩
  · exact absurd (hfront _ hc) (by decide)
  · have hpart := isIdentifierPart_of_isIdentifier hname (c := ',') (by rwa [String.toList_ofList])
    exact absurd hpart (by decide)
  · exact absurd (hback _ hc) (by decide)

theorem IsItem.areItems {piece : List Char} (h : IsItem piece) : AreItems piece :=
  (areItems_of_not_mem h.not_mem).mpr h

/-- Behind an item, whatever is matched comma by comma is items. -/
theorem areItems_of_matches_star {rest : List Char} (h : nextIdentifier.star.Matches rest)
    {front name back : List Char} (hfront : blank.star.Matches front)
    (hname : identifier.Matches name) (hback : blank.star.Matches back) :
    AreItems (front ++ (name ++ (rest ++ back))) := by
  generalize hp : Regex.star _ = p at h
  -- from the front: each round ends one item and begins the next
  induction h generalizing front name with
  | done => exact (isItem_iff_exists.mpr ⟨front, name, back, rfl, hfront, hname, hback⟩).areItems
  | more hround _ _ ih =>
      cases hp
      obtain ⟨gap, others, rfl, hgap, hothers⟩ := matches_seq_iff.mp hround
      obtain ⟨comma, others, rfl, hcomma, hbehind⟩ := matches_seq_iff.mp hothers
      obtain ⟨lead, next, rfl, hlead, hnext⟩ := matches_seq_iff.mp hbehind
      cases matches_literal_iff.mp hcomma
      have hitem : IsItem (front ++ (name ++ gap)) :=
        isItem_iff_exists.mpr ⟨front, name, gap, rfl, hfront, hname, hgap⟩
      have hitems := areItems_append_comma.mpr ⟨hitem.areItems, ih hlead hnext rfl⟩
      simpa using hitems
  | _ => cases hp

theorem matches_of_areItems {cs : List Char} (h : AreItems cs) : identifierList.Matches cs := by
  -- on the items from the front, each of which is parted from the rest by its comma
  rcases comma_cases cs with hcomma | ⟨piece, back, hcs, hcomma⟩
  · obtain ⟨front, name, gap, rfl, hfront, hname, hgap⟩ :=
      isItem_iff_exists.mp ((areItems_of_not_mem hcomma).mp h)
    exact .seq hfront (.seq hname (.seq .done hgap))
  · have hlength : back.length < cs.length := by
      rw [hcs, List.length_append, List.length_cons]
      omega
    rw [hcs] at h ⊢
    obtain ⟨hpiece, hback⟩ := areItems_append_comma.mp h
    obtain ⟨front, name, gap, rfl, hfront, hname, hgap⟩ :=
      isItem_iff_exists.mp ((areItems_of_not_mem hcomma).mp hpiece)
    obtain ⟨lead, others, rfl, hlead, hothers⟩ := matches_seq_iff.mp (matches_of_areItems hback)
    obtain ⟨next, others, rfl, hnext, hbehind⟩ := matches_seq_iff.mp hothers
    obtain ⟨rounds, last, rfl, hrounds, hlast⟩ := matches_seq_iff.mp hbehind
    have hround : nextIdentifier.Matches (gap ++ ([','] ++ (lead ++ next))) :=
      .seq hgap (.seq (matches_literal_iff.mpr rfl) (.seq hlead hnext))
    have hwhole : identifierList.Matches _ :=
      .seq hfront (.seq hname (.seq (.more hround hrounds) hlast))
    simpa using hwhole
termination_by cs.length

/-- A list of identifiers is what its expression matches. -/
theorem isIdentifierList_iff_matches :
    isIdentifierList s = true ↔ identifierList.Matches s.toList := by
  rw [isIdentifierList_iff_areItems]
  refine ⟨matches_of_areItems, fun h => ?_⟩
  obtain ⟨front, others, hlist, hfront, hothers⟩ := matches_seq_iff.mp h
  obtain ⟨name, others, rfl, hname, hbehind⟩ := matches_seq_iff.mp hothers
  obtain ⟨rounds, back, rfl, hrounds, hback⟩ := matches_seq_iff.mp hbehind
  rw [hlist]
  exact areItems_of_matches_star hrounds hfront hname hback

/-! ## Terms -/

theorem matches_spelled_iff {word : String} : (spelled word).Matches cs ↔ Spells word cs := by
  rw [spelled, Spells]
  induction word.toList generalizing cs with
  | nil => rw [List.foldr_nil, matches_empty_iff, List.forall₂_nil_left_iff]
  | cons letter letters ih =>
      rw [List.foldr_cons, matches_seq_iff, List.forall₂_cons_left_iff]
      constructor
      · rintro ⟨front, back, rfl, hfront, hback⟩
        obtain ⟨c, rfl, hc⟩ := matches_one_iff.mp hfront
        exact ⟨c, back, hc, ih.mp hback, rfl⟩
      · rintro ⟨c, back, hc, hback, rfl⟩
        exact ⟨[c], back, rfl, .one hc, ih.mpr hback⟩

theorem matches_direction_iff : direction.Matches cs ↔
      ∃ gap word, cs = gap ++ word ∧ (gap ≠ [] ∧ ∀ c ∈ gap, isBlank c = true) ∧
        (Spells "ASC" word ∨ Spells "DESC" word) := by
  simp only [direction, matches_seq_iff, matches_alt_iff, matches_spelled_iff]
  simp only [blank, matches_plus_one_iff]

/-- A trimmed term is an identifier, and perhaps blanks and a direction. -/
theorem sortingTerm_ofList_iff :
    SortingTerm (String.ofList cs) ↔
      ∃ name rest, cs = name ++ rest ∧ identifier.Matches name ∧
        (optional direction).Matches rest := by
  simp only [matches_optional_iff, matches_direction_iff]
  constructor
  · rintro (h | ⟨name, gap, word, hs, hname, hne, hgap, hword⟩)
    · exact ⟨cs, [], (List.append_nil cs).symm, matches_identifier_iff.mpr h, .inr rfl⟩
    · have hlist : cs = name.toList ++ (gap.toList ++ word.toList) := by
        rw [← String.toList_ofList (l := cs), hs]
        simp
      have hgap' : gap.toList ≠ [] := fun hnil => hne (String.toList_eq_nil_iff.mp hnil)
      exact ⟨name.toList, _, hlist, isIdentifier_iff_matches.mp hname,
        .inl ⟨gap.toList, word.toList, rfl, ⟨hgap', hgap⟩, hword⟩⟩
  · rintro ⟨name, rest, rfl, hname, ⟨gap, word, rfl, ⟨hne, hgap⟩, hword⟩ | rfl⟩
    · refine .inr ⟨String.ofList name, String.ofList gap, String.ofList word, ?_,
        matches_identifier_iff.mp hname, ?_, ?_, ?_⟩
      · rw [← String.toList_inj]
        simp
      · rwa [Ne, ← String.toList_eq_nil_iff, String.toList_ofList]
      · rwa [String.toList_ofList]
      · rwa [String.toList_ofList]
    · rw [List.append_nil]
      exact .inl (matches_identifier_iff.mp hname)

/-- An identifier begins with a character that is no blank. -/
theorem exists_cons_of_matches (h : identifier.Matches cs) :
    ∃ c rest, cs = c :: rest ∧ isBlank c = false := by
  cases cs with
  | nil => exact absurd (matches_identifier_iff.mp h) (by decide)
  | cons c rest => exact ⟨c, rest, rfl, isBlank_of_matches h List.mem_cons_self⟩

/-- Nothing is cut from an identifier, nor from one with a direction. -/
theorem trimList_identifier_append {name rest : List Char} (hname : identifier.Matches name)
    (hrest : (optional direction).Matches rest) : trimList (name ++ rest) = name ++ rest := by
  rw [matches_optional_iff, matches_direction_iff] at hrest
  rcases hrest with ⟨gap, word, rfl, -, hword⟩ | rfl
  · have hdirection : isDirection word = true := isDirection_iff.mpr hword
    have hne : word ≠ [] := by
      rintro rfl
      exact absurd hdirection (by decide)
    obtain ⟨c, others, rfl, hc⟩ := exists_cons_of_matches hname
    have hfirst : ¬ isBlank c = true := by
      rw [hc]
      exact Bool.false_ne_true
    have hvisible : ¬ ∀ d ∈ c :: others, isBlank d = true := fun hblank =>
      hfirst (hblank c List.mem_cons_self)
    have hskip : skipBlanks (c :: others) = c :: others := List.dropWhile_cons_of_neg hfirst
    rw [Text.trimList_append_of_not_blank hvisible hne (isBlank_of_isDirection hdirection), hskip]
  · rw [List.append_nil]
    exact Text.trimList_eq_self fun c hc => isBlank_of_matches hname hc

/-- A term is what its expression matches. -/
theorem isOrderTerm_iff_matches : isOrderTerm s = true ↔ orderTerm.Matches s.toList := by
  rw [isOrderTerm_iff, Text.trim, sortingTerm_ofList_iff]
  constructor
  · rintro ⟨name, rest, htrim, hname, hrest⟩
    obtain ⟨front, back, hlist, hfront, hback⟩ := Text.exists_append_trimList s.toList
    rw [hlist, htrim, List.append_assoc]
    exact .seq (matches_blanks_iff.mpr hfront)
      (.seq hname (.seq hrest (matches_blanks_iff.mpr hback)))
  · intro h
    obtain ⟨front, others, hlist, hfront, hothers⟩ := matches_seq_iff.mp h
    obtain ⟨name, others, rfl, hname, hbehind⟩ := matches_seq_iff.mp hothers
    obtain ⟨rest, back, rfl, hrest, hback⟩ := matches_seq_iff.mp hbehind
    refine ⟨name, rest, ?_, hname, hrest⟩
    rw [hlist, ← List.append_assoc name, Text.trimList_between_blanks
      (matches_blanks_iff.mp hfront) (matches_blanks_iff.mp hback),
      trimList_identifier_append hname hrest]

/-! ## Expressions of HAVING -/

theorem isAlphanum_iff {c : Char} :
    c.isAlphanum = true ↔ ('A' ≤ c ∧ c ≤ 'Z') ∨ ('a' ≤ c ∧ c ≤ 'z') ∨ ('0' ≤ c ∧ c ≤ '9') := by
  have hupper : c.isUpper = true ↔ 'A' ≤ c ∧ c ≤ 'Z' := decide_eq_true_iff
  have hlower : c.isLower = true ↔ 'a' ≤ c ∧ c ≤ 'z' :=
    Bool.and_eq_true_iff.trans (and_congr decide_eq_true_iff decide_eq_true_iff)
  have hdigit : c.isDigit = true ↔ '0' ≤ c ∧ c ≤ '9' :=
    Bool.and_eq_true_iff.trans (and_congr decide_eq_true_iff decide_eq_true_iff)
  have hparts : c.isAlphanum = (c.isUpper || c.isLower || c.isDigit) := rfl
  rw [hparts, Bool.or_eq_true, Bool.or_eq_true, hupper, hlower, hdigit, or_assoc]

theorem isHavingPart_iff {c : Char} : isHavingPart c = true ↔ HavingPart c := by
  simp only [isHavingPart, HavingPart, InRanges, List.mem_cons, List.not_mem_nil, or_false,
    exists_eq_or_imp, exists_eq_left, le_and_le_iff, Bool.or_eq_true, decide_eq_true_eq,
    isAlphanum_iff]
  grind

/-- An expression of HAVING is what its expression matches. -/
theorem isHavingText_iff_matches : isHavingText s = true ↔ having.Matches s.toList := by
  have hne : (!s.toList.isEmpty) = true ↔ s.toList ≠ [] := by
    rw [Bool.not_eq_true', List.isEmpty_eq_false_iff]
  rw [isHavingText, having, matches_plus_one_iff, Bool.and_eq_true, List.all_eq_true, hne]
  simp only [isHavingPart_iff]

end Identifier

/-- What a valid query writes out is matched by the expression for its clause. -/
theorem Descriptor.matches_of_isValid {d : Descriptor} (hs : d.clauseStyle = .inline)
    (hv : d.IsValid) :
    (∀ columns, d.groupBy = some columns → Regex.identifierList.Matches columns.toList) ∧
      (∀ expression, d.having = some expression → Regex.having.Matches expression.toList) ∧
      ∀ term ∈ d.orderBy, Regex.orderTerm.Matches term.toList := by
  obtain ⟨hgroupBy, hhaving, horderBy⟩ := hv.inlined hs
  exact ⟨fun columns h => Identifier.isIdentifierList_iff_matches.mp (hgroupBy columns h),
    fun expression h => Identifier.isHavingText_iff_matches.mp (hhaving expression h),
    fun term h => Identifier.isOrderTerm_iff_matches.mp (horderBy term h)⟩

end SqlChain
