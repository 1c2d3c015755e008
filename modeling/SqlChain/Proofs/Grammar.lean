import Mathlib.Data.List.DropRight
import SqlChain.Proofs.Extension

/-!
# What the recognisers accept

A recogniser takes what it can from the front of a text and goes on with the rest. This
file says what that comes to, in words that know of no front and no rest. An identifier
is a name, or a name and behind a point one more name or a star. A list for GROUP BY is
accepted exactly if each of the pieces between its commas, with the blanks cut from its
ends, is an identifier; so joining columns to one text neither helps nor hurts any of
them.

One observation carries the lists: what cannot continue an identifier may stand behind
a text without changing what is taken from its front. Neither a comma nor a blank can,
so each piece is read as if it stood alone.
-/

namespace SqlChain.Text

/-- What a predicate drops from the front, it drops without looking at what is behind. -/
theorem dropWhile_append_of_head {p : Char → Bool} {cs back : List Char}
    (hb : ∀ c ∈ back.head?, p c = false) :
    (cs ++ back).dropWhile p = cs.dropWhile p ++ back := by
  have hback : back.dropWhile p = back := by
    cases back with
    | nil => rfl
    | cons c rest => exact List.dropWhile_cons_of_neg (by simp [hb c rfl])
  rw [List.dropWhile_append, hback]
  split
  · next hempty => rw [List.isEmpty_iff.mp hempty, List.nil_append]
  · rfl

/-- Trimming cuts blanks from the end of what has none at the front. -/
theorem trimList_append_blanks (cs : List Char) :
    trimList cs ++ (skipBlanks cs).rtakeWhile isBlank = skipBlanks cs :=
  List.rdropWhile_append_rtakeWhile ..

/-- Blanks at the end of a trimmed text are none. -/
theorem eq_nil_of_suffix_trimList {cs rest : List Char} (hs : rest <:+ trimList cs)
    (hblank : ∀ c ∈ rest, isBlank c = true) : rest = [] := by
  by_contra hne
  obtain ⟨front, hfront⟩ := hs
  have htrim : trimList cs ≠ [] := by
    rw [← hfront]
    exact List.append_ne_nil_of_right_ne_nil front hne
  have hlast : ¬ isBlank ((trimList cs).getLast htrim) = true :=
    List.rdropWhile_last_not isBlank (skipBlanks cs) htrim
  apply hlast
  simp only [← hfront, List.getLast_append_of_ne_nil _ hne]
  exact hblank _ (List.getLast_mem hne)

end SqlChain.Text

namespace SqlChain.Identifier

open Text (isBlank skipBlanks trimList)

/-! ## Names -/

/-- An ASCII letter or an underscore. -/
def Letter (c : Char) : Prop := ('A' ≤ c ∧ c ≤ 'Z') ∨ ('a' ≤ c ∧ c ≤ 'z') ∨ c = '_'

/-- An ASCII digit. -/
def Digit (c : Char) : Prop := '0' ≤ c ∧ c ≤ '9'

/-- A letter, then letters and digits. -/
def SimpleName (s : String) : Prop :=
  ∃ first rest, s.toList = first :: rest ∧ Letter first ∧ ∀ c ∈ rest, Letter c ∨ Digit c

theorem isNameStart_iff {c : Char} : isNameStart c = true ↔ Letter c := by
  have hupper : c.isUpper = true ↔ 'A' ≤ c ∧ c ≤ 'Z' := decide_eq_true_iff
  have hlower : c.isLower = true ↔ 'a' ≤ c ∧ c ≤ 'z' :=
    Bool.and_eq_true_iff.trans (and_congr decide_eq_true_iff decide_eq_true_iff)
  have hletter : c.isAlpha = true ↔ c.isUpper = true ∨ c.isLower = true := Bool.or_eq_true_iff
  rw [isNameStart, Bool.or_eq_true, hletter, hupper, hlower, beq_iff_eq, or_assoc, Letter]

theorem isNamePart_iff {c : Char} : isNamePart c = true ↔ Letter c ∨ Digit c := by
  have hdigit : c.isDigit = true ↔ Digit c :=
    Bool.and_eq_true_iff.trans (and_congr decide_eq_true_iff decide_eq_true_iff)
  have halphanum : c.isAlphanum = true ↔ c.isAlpha = true ∨ c.isDigit = true :=
    Bool.or_eq_true_iff
  rw [← isNameStart_iff, ← hdigit, isNamePart, isNameStart, Bool.or_eq_true, Bool.or_eq_true,
    halphanum, or_right_comm]

theorem afterName?_of_simpleName {s : String} (hs : SimpleName s) :
    afterName? s.toList = some [] := by
  obtain ⟨first, rest, hlist, hfirst, hrest⟩ := hs
  have hparts : ∀ c ∈ rest, isNamePart c = true := fun c hc => isNamePart_iff.mpr (hrest c hc)
  rw [hlist, afterName?, if_pos (isNameStart_iff.mpr hfirst), List.dropWhile_eq_nil_iff.mpr hparts]

/-- What a name is taken from is a name and the rest. -/
theorem exists_simpleName_of_afterName? {cs rest : List Char} (h : afterName? cs = some rest) :
    ∃ name, SimpleName name ∧ cs = name.toList ++ rest := by
  cases cs with
  | nil => cases h
  | cons first others =>
      simp only [afterName?] at h
      split at h
      · next hfirst =>
          cases h
          refine ⟨String.ofList (first :: others.takeWhile isNamePart), ⟨first, _,
            String.toList_ofList, isNameStart_iff.mp hfirst, fun c hc => ?_⟩, ?_⟩
          · exact isNamePart_iff.mp (List.all_eq_true.mp List.all_takeWhile c hc)
          · rw [String.toList_ofList, List.cons_append, List.takeWhile_append_dropWhile]
      · cases h

/-- What cannot continue a name may stand behind it. -/
theorem afterName?_append {cs back : List Char} (hb : ∀ c ∈ back.head?, isNamePart c = false) :
    afterName? (cs ++ back) = (afterName? cs).map (· ++ back) := by
  cases cs with
  | nil =>
      cases back with
      | nil => rfl
      | cons c rest =>
          have hstart : ¬ isNameStart c = true := fun hc => by
            have hpart := isNamePart_of_isNameStart hc
            rw [hb c rfl] at hpart
            cases hpart
          exact if_neg hstart
  | cons first others =>
      rw [List.cons_append, afterName?, afterName?]
      split
      · rw [Text.dropWhile_append_of_head hb, Option.map_some]
      · rfl

/-! ## Identifiers -/

theorem afterIdentifier?_of_star {cs rest : List Char}
    (h : afterName? cs = some ('.' :: '*' :: rest)) : afterIdentifier? cs = some rest := by
  rw [afterIdentifier?, h]
  rfl

theorem afterIdentifier?_of_point {cs rest : List Char} (h : afterName? cs = some ('.' :: rest))
    (hrest : rest.head? ≠ some '*') : afterIdentifier? cs = afterName? rest := by
  rw [afterIdentifier?, h]
  split
  · next heq =>
      cases heq
      exact absurd rfl hrest
  · next heq =>
      cases heq
      rfl
  · next hother => exact absurd rfl (hother rest)

theorem afterIdentifier?_of_name {cs rest : List Char} (h : afterName? cs = some rest)
    (hrest : rest.head? ≠ some '.') : afterIdentifier? cs = some rest := by
  rw [afterIdentifier?, h]
  split
  · next heq =>
      cases heq
      exact absurd rfl hrest
  · next heq =>
      cases heq
      exact absurd rfl hrest
  · rfl


theorem afterIdentifier?_of_none {cs : List Char} (h : afterName? cs = none) :
    afterIdentifier? cs = none := by
  rw [afterIdentifier?, h]

/-- What cannot continue an identifier may stand behind it. -/
theorem afterIdentifier?_append {cs back : List Char}
    (hb : ∀ c ∈ back.head?, isIdentifierPart c = false) :
    afterIdentifier? (cs ++ back) = (afterIdentifier? cs).map (· ++ back) := by
  have hparts : ∀ c ∈ back.head?, isNamePart c = false ∧ c ≠ '.' ∧ c ≠ '*' := by
    intro c hc
    have hpart := hb c hc
    simp only [isIdentifierPart, Bool.or_eq_false_iff, beq_eq_false_iff_ne] at hpart
    exact ⟨hpart.1.1, hpart.1.2, hpart.2⟩
  have hname (cs : List Char) : afterName? (cs ++ back) = (afterName? cs).map (· ++ back) :=
    afterName?_append fun c hc => (hparts c hc).1
  -- where `back` stands first, it is neither a point nor a star
  have hhead {c : Char} (hc : c = '.' ∨ c = '*') {rest : List Char} (hrest : rest.head? ≠ some c) :
      (rest ++ back).head? ≠ some c := by
    rw [List.head?_append]
    intro hor
    rcases Option.or_eq_some_iff.mp hor with hfirst | ⟨-, hback⟩
    · exact hrest hfirst
    · obtain ⟨-, hpoint, hstar⟩ := hparts c hback
      exact hc.elim hpoint hstar
  cases hcs : afterName? cs with
  | none =>
      rw [afterIdentifier?_of_none hcs, afterIdentifier?_of_none (by rw [hname, hcs]; rfl)]
      rfl
  | some rest =>
      have happend : afterName? (cs ++ back) = some (rest ++ back) := by rw [hname, hcs]; rfl
      by_cases hpoint : rest.head? = some '.'
      · obtain ⟨rest, rfl⟩ := List.head?_eq_some_iff.mp hpoint
        by_cases hstar : rest.head? = some '*'
        · obtain ⟨rest, rfl⟩ := List.head?_eq_some_iff.mp hstar
          rw [afterIdentifier?_of_star hcs, afterIdentifier?_of_star happend]
          rfl
        · rw [afterIdentifier?_of_point hcs hstar,
            afterIdentifier?_of_point happend (hhead (.inr rfl) hstar)]
          exact hname rest
      · rw [afterIdentifier?_of_name hcs hpoint,
          afterIdentifier?_of_name happend (hhead (.inl rfl) hpoint)]
        rfl

theorem suffix_of_afterName? {cs rest : List Char} (h : afterName? cs = some rest) :
    rest <:+ cs := by
  obtain ⟨name, -, rfl⟩ := exists_simpleName_of_afterName? h
  exact List.suffix_append _ _

theorem suffix_of_afterIdentifier? {cs rest : List Char} (h : afterIdentifier? cs = some rest) :
    rest <:+ cs := by
  rw [afterIdentifier?] at h
  split at h
  · next hname =>
      cases h
      have hstar : rest <:+ '.' :: '*' :: rest := List.suffix_append ['.', '*'] rest
      exact hstar.trans (suffix_of_afterName? hname)
  · next others _ hname =>
      have hpoint : others <:+ '.' :: others := List.suffix_cons '.' others
      exact (suffix_of_afterName? h).trans (hpoint.trans (suffix_of_afterName? hname))
  · exact suffix_of_afterName? h

theorem SimpleName.head?_ne_star {s : String} (hs : SimpleName s) : s.toList.head? ≠ some '*' := by
  obtain ⟨first, rest, hlist, hfirst, -⟩ := hs
  rw [hlist]
  rintro ⟨⟩
  exact absurd (isNameStart_iff.mpr hfirst) (by decide)

/-- What an identifier is taken from is a name, or a name qualified by one more name or
a star, and the rest. -/
theorem exists_names_of_afterIdentifier? {cs rest : List Char}
    (h : afterIdentifier? cs = some rest) :
    ∃ s : String, cs = s.toList ++ rest ∧
      (SimpleName s ∨
        ∃ name member, s = name ++ "." ++ member ∧ SimpleName name ∧
          (SimpleName member ∨ member = "*")) := by
  rw [afterIdentifier?] at h
  split at h
  · next hname =>
      cases h
      obtain ⟨name, hsimple, rfl⟩ := exists_simpleName_of_afterName? hname
      exact ⟨name ++ "." ++ "*", by simp, .inr ⟨name, "*", rfl, hsimple, .inr rfl⟩⟩
  · next others _ hname =>
      obtain ⟨name, hsimple, rfl⟩ := exists_simpleName_of_afterName? hname
      obtain ⟨member, hmember, rfl⟩ := exists_simpleName_of_afterName? h
      exact ⟨name ++ "." ++ member, by simp, .inr ⟨name, member, rfl, hsimple, .inl hmember⟩⟩
  · obtain ⟨name, hsimple, rfl⟩ := exists_simpleName_of_afterName? h
    exact ⟨name, rfl, .inl hsimple⟩

/-- An identifier is a name, or a name qualified by one more name or a star. -/
theorem isIdentifier_iff {s : String} :
    isIdentifier s = true ↔
      SimpleName s ∨
        ∃ name member, s = name ++ "." ++ member ∧ SimpleName name ∧
          (SimpleName member ∨ member = "*") := by
  rw [isIdentifier, beq_iff_eq]
  constructor
  · intro h
    obtain ⟨t, hlist, ht⟩ := exists_names_of_afterIdentifier? h
    rw [List.append_nil, String.toList_inj] at hlist
    rwa [hlist]
  · rintro (hs | ⟨name, member, rfl, hname, hmember⟩)
    · exact afterIdentifier?_of_name (afterName?_of_simpleName hs) (by simp)
    · have hpoint : afterName? (name ++ "." ++ member).toList = some ('.' :: member.toList) := by
        have hlist : (name ++ "." ++ member).toList = name.toList ++ '.' :: member.toList := by simp
        rw [hlist, afterName?_append (by simp; decide), afterName?_of_simpleName hname]
        rfl
      rcases hmember with hmember | rfl
      · rw [afterIdentifier?_of_point hpoint hmember.head?_ne_star]
        exact afterName?_of_simpleName hmember
      · exact afterIdentifier?_of_star hpoint

/-- Digits, letters, the underscore, the point and the star. -/
theorem toNat_of_isIdentifierPart {c : Char} (h : isIdentifierPart c = true) :
    (48 ≤ c.toNat ∧ c.toNat ≤ 57) ∨ (65 ≤ c.toNat ∧ c.toNat ≤ 90) ∨
      (97 ≤ c.toNat ∧ c.toNat ≤ 122) ∨ c.toNat = 95 ∨ c.toNat = 46 ∨ c.toNat = 42 := by
  rw [isIdentifierPart, Bool.or_eq_true, Bool.or_eq_true, isNamePart_iff, beq_iff_eq,
    beq_iff_eq] at h
  simp only [Letter, Digit, Char.le_def, UInt32.le_iff_toNat_le] at h
  rcases h with (((h | h | rfl) | h) | rfl) | rfl
  · exact .inr (.inl h)
  · exact .inr (.inr (.inl h))
  · simp
  · exact .inl h
  all_goals simp

theorem isBlank_of_isIdentifierPart {c : Char} (h : isIdentifierPart c = true) :
    isBlank c = false := by
  have hrange := toNat_of_isIdentifierPart h
  simp only [isBlank, Bool.or_eq_false_iff, Bool.and_eq_false_iff, decide_eq_false_iff_not,
    beq_eq_false_iff_ne]
  omega

theorem isIdentifierPart_of_isBlank {c : Char} (h : isBlank c = true) :
    isIdentifierPart c = false := by
  cases hc : isIdentifierPart c with
  | false => rfl
  | true =>
      rw [isBlank_of_isIdentifierPart hc] at h
      cases h

theorem isIdentifierPart_of_isIdentifier {s : String} (h : isIdentifier s = true) {c : Char}
    (hc : c ∈ s.toList) : isIdentifierPart c = true := by
  rcases isIdentifierPart_or_mem_rest (beq_iff_eq.mp h) hc with hpart | hrest
  · exact hpart
  · cases hrest

/-! ## Items of a list -/

/-- The piece is an identifier with blanks around it. -/
def IsItem (piece : List Char) : Prop := afterIdentifier? (trimList piece) = some []

theorem isItem_iff {piece : List Char} :
    IsItem piece ↔ isIdentifier (Text.trim (String.ofList piece)) = true := by
  rw [IsItem, isIdentifier, beq_iff_eq, Text.trim, String.toList_ofList, String.toList_ofList]

/-- The blanks at the end of a piece stay in the rest. -/
theorem afterIdentifier?_skipBlanks (piece : List Char) :
    ∃ blanks, (∀ c ∈ blanks, isBlank c = true) ∧
      afterIdentifier? (skipBlanks piece) =
        (afterIdentifier? (trimList piece)).map (· ++ blanks) := by
  have hblanks : ∀ c ∈ (skipBlanks piece).rtakeWhile isBlank, isBlank c = true :=
    fun _ => List.mem_rtakeWhile_imp
  refine ⟨_, hblanks, ?_⟩
  rw [← afterIdentifier?_append, Text.trimList_append_blanks]
  intro c hc
  exact isIdentifierPart_of_isBlank (hblanks c (List.mem_of_mem_head? hc))

theorem isItem_iff_of_afterIdentifier? {piece rest : List Char}
    (h : afterIdentifier? (skipBlanks piece) = some rest) :
    IsItem piece ↔ skipBlanks rest = [] := by
  obtain ⟨blanks, hblanks, heq⟩ := afterIdentifier?_skipBlanks piece
  rw [heq] at h
  obtain ⟨left, hleft, rfl⟩ := Option.map_eq_some_iff.mp h
  rw [IsItem, hleft, Option.some_inj]
  constructor
  · rintro rfl
    exact List.dropWhile_eq_nil_iff.mpr hblanks
  · intro hskip
    have hall := List.dropWhile_eq_nil_iff.mp hskip
    exact Text.eq_nil_of_suffix_trimList (suffix_of_afterIdentifier? hleft)
      fun c hc => hall c (List.mem_append_left _ hc)

theorem not_isItem_of_afterIdentifier? {piece : List Char}
    (h : afterIdentifier? (skipBlanks piece) = none) : ¬ IsItem piece := by
  obtain ⟨blanks, -, heq⟩ := afterIdentifier?_skipBlanks piece
  rw [heq, Option.map_eq_none_iff] at h
  intro hitem
  rw [IsItem, h] at hitem
  cases hitem

theorem isItem_cons_blank {c : Char} (hc : isBlank c = true) {piece : List Char} :
    IsItem (c :: piece) ↔ IsItem piece := by
  have hskip : skipBlanks (c :: piece) = skipBlanks piece := List.dropWhile_cons_of_pos hc
  rw [IsItem, IsItem, trimList, trimList, hskip]

/-! ## Lists -/

/-- Between the commas there is nothing but items. -/
def AreItems (cs : List Char) : Prop := ∀ piece ∈ cs.splitOn ',', IsItem piece

theorem areItems_of_not_mem {cs : List Char} (h : ',' ∉ cs) : AreItems cs ↔ IsItem cs := by
  rw [AreItems, List.splitOn_eq_singleton h, List.forall_mem_singleton]

theorem areItems_append_comma {cs back : List Char} :
    AreItems (cs ++ ',' :: back) ↔ AreItems cs ∧ AreItems back := by
  rw [AreItems, List.splitOn_append_cons_self, List.forall_mem_append]
  rfl

theorem areItems_cons_blank {c : Char} (hc : isBlank c = true) {cs : List Char} :
    AreItems (c :: cs) ↔ AreItems cs := by
  have hcomma : (c == ',') = false := by
    rw [beq_eq_false_iff_ne]
    rintro rfl
    exact absurd hc (by decide)
  obtain ⟨first, others, hsplit⟩ := List.exists_cons_of_ne_nil (List.splitOn_ne_nil ',' cs)
  rw [AreItems, AreItems, List.splitOn_cons_eq_if_modifyHead, hcomma, hsplit]
  simp only [Bool.false_eq_true, if_false, List.modifyHead_cons, List.forall_mem_cons,
    isItem_cons_blank hc]

theorem skipBlanks_append_comma (cs back : List Char) :
    skipBlanks (cs ++ ',' :: back) = skipBlanks cs ++ ',' :: back :=
  Text.dropWhile_append_of_head fun c hc => by
    cases hc
    decide

theorem afterIdentifier?_append_comma (cs back : List Char) :
    afterIdentifier? (skipBlanks (cs ++ ',' :: back)) =
      (afterIdentifier? (skipBlanks cs)).map (· ++ ',' :: back) := by
  rw [skipBlanks_append_comma, afterIdentifier?_append]
  intro c hc
  cases hc
  decide

/-- A comma stands nowhere, or it stands somewhere first. -/
theorem comma_cases (cs : List Char) :
    ',' ∉ cs ∨ ∃ piece back, cs = piece ++ ',' :: back ∧ ',' ∉ piece := by
  by_cases h : ',' ∈ cs
  · exact .inr (List.eq_append_cons_of_mem h)
  · exact .inl h

theorem not_areItems_of_afterIdentifier? {cs : List Char}
    (h : afterIdentifier? (skipBlanks cs) = none) : ¬ AreItems cs := by
  rcases comma_cases cs with hcomma | ⟨piece, back, rfl, hcomma⟩
  · rw [areItems_of_not_mem hcomma]
    exact not_isItem_of_afterIdentifier? h
  · rw [afterIdentifier?_append_comma, Option.map_eq_none_iff] at h
    rw [areItems_append_comma, areItems_of_not_mem hcomma]
    exact fun hitems => not_isItem_of_afterIdentifier? h hitems.1

theorem listGoesOn_of_not_comma {fuel : Nat} {cs : List Char}
    (h : ∀ others, skipBlanks cs ≠ ',' :: others) :
    listGoesOn (fuel + 1) cs = true ↔ skipBlanks cs = [] := by
  rw [listGoesOn]
  split
  · next hnil => exact iff_of_true rfl hnil
  · next others hothers => exact absurd hothers (h others)
  · next hne _ => exact iff_of_false Bool.false_ne_true hne

theorem listGoesOn_of_comma {fuel : Nat} {cs others : List Char}
    (h : skipBlanks cs = ',' :: others) :
    listGoesOn (fuel + 1) cs = true ↔
      ∃ rest, afterIdentifier? (skipBlanks others) = some rest ∧ listGoesOn fuel rest = true := by
  rw [listGoesOn]
  split
  · next hnil =>
      rw [hnil] at h
      cases h
  · next hothers =>
      rw [h] at hothers
      cases hothers
      cases afterIdentifier? (skipBlanks others) <;> simp
  · next hne => exact absurd h (hne others)

theorem length_le_of_afterIdentifier? {cs rest : List Char}
    (h : afterIdentifier? (skipBlanks cs) = some rest) : rest.length ≤ cs.length :=
  Nat.le_trans (suffix_of_afterIdentifier? h).length_le (List.dropWhile_suffix isBlank).length_le

theorem comma_mem_of_afterIdentifier? {cs rest others : List Char}
    (h : afterIdentifier? (skipBlanks cs) = some rest) (hskip : skipBlanks rest = ',' :: others) :
    ',' ∈ cs := by
  have hrest : skipBlanks rest <:+ cs :=
    ((List.dropWhile_suffix isBlank).trans (suffix_of_afterIdentifier? h)).trans
      (List.dropWhile_suffix isBlank)
  exact hrest.mem (hskip ▸ List.mem_cons_self)

/-- After the identifier at its front, a text goes on as a list if it is one. -/
theorem listGoesOn_iff_areItems {fuel : Nat} {cs rest : List Char}
    (h : afterIdentifier? (skipBlanks cs) = some rest) (hfuel : rest.length < fuel) :
    listGoesOn fuel rest = true ↔ AreItems cs := by
  -- From comma to comma, each of which takes one of the fuel.
  induction fuel generalizing cs rest with
  | zero => cases hfuel
  | succ fuel ih =>
      rcases comma_cases cs with hcomma | ⟨piece, back, rfl, hcomma⟩
      · rw [areItems_of_not_mem hcomma, isItem_iff_of_afterIdentifier? h]
        exact listGoesOn_of_not_comma fun others hskip =>
          hcomma (comma_mem_of_afterIdentifier? h hskip)
      · rw [afterIdentifier?_append_comma] at h
        obtain ⟨left, hleft, rfl⟩ := Option.map_eq_some_iff.mp h
        rw [areItems_append_comma, areItems_of_not_mem hcomma,
          isItem_iff_of_afterIdentifier? hleft]
        have hskip := skipBlanks_append_comma left back
        cases hfirst : skipBlanks left with
        | nil =>
            rw [hfirst] at hskip
            rw [listGoesOn_of_comma hskip, eq_self, true_and]
            cases hback : afterIdentifier? (skipBlanks back) with
            | none => simp [not_areItems_of_afterIdentifier? hback]
            | some rest =>
                have hlength : rest.length < fuel := by
                  have hle := length_le_of_afterIdentifier? hback
                  rw [List.length_append, List.length_cons] at hfuel
                  omega
                simpa using ih hback hlength
        | cons c others =>
            have hne : ∀ others', skipBlanks (left ++ ',' :: back) ≠ ',' :: others' := by
              rw [hskip, hfirst]
              rintro others' ⟨⟩
              exact hcomma (comma_mem_of_afterIdentifier? hleft hfirst)
            rw [listGoesOn_of_not_comma hne, hskip, hfirst]
            simp

theorem isIdentifierList_iff_areItems {s : String} :
    isIdentifierList s = true ↔ AreItems s.toList := by
  rw [isIdentifierList]
  split
  · next rest hrest => exact listGoesOn_iff_areItems hrest (Nat.lt_succ_self _)
  · next hnone =>
      exact iff_of_false Bool.false_ne_true (not_areItems_of_afterIdentifier? hnone)

/-- A text is a list of identifiers if every piece between its commas is one, blanks
apart. -/
theorem isIdentifierList_iff {s : String} :
    isIdentifierList s = true ↔
      ∀ piece ∈ (s.split ',').toList.map (·.copy), isIdentifier (Text.trim piece) = true := by
  rw [isIdentifierList_iff_areItems, AreItems, String.toList_split_char, List.forall_mem_map]
  simp only [isItem_iff]

/-- Joining makes one list of several, but not of none. -/
theorem isIdentifierList_listing {columns : List String} :
    isIdentifierList (Text.listing columns) = true ↔
      columns ≠ [] ∧ ∀ column ∈ columns, isIdentifierList column = true := by
  induction columns with
  | nil => exact iff_of_false (by decide) fun h => h.1 rfl
  | cons column rest ih =>
      cases rest with
      | nil => simp [Text.listing]
      | cons next rest =>
          have hlist : (Text.listing (column :: next :: rest)).toList =
              column.toList ++ ',' :: ' ' :: (Text.listing (next :: rest)).toList := by
            rw [Text.listing_cons_cons, String.toList_append, String.toList_append,
              List.append_assoc]
            rfl
          rw [isIdentifierList_iff_areItems, hlist, areItems_append_comma,
            areItems_cons_blank (by decide), ← isIdentifierList_iff_areItems,
            ← isIdentifierList_iff_areItems, ih]
          simp

end SqlChain.Identifier

namespace SqlChain

open Identifier (SimpleName isIdentifier isIdentifierList)

/-- Where nothing is wrong but perhaps the grouping, a new text for it decides. -/
theorem Descriptor.violation?_groupBy {d : Descriptor} (hs : d.clauseStyle = .inline)
    (hv : { d with groupBy := none }.IsValid) (text : String) :
    { d with groupBy := some text }.violation? = checkText .groupBy isIdentifierList text := by
  have ht : { d with groupBy := none }.Becomes (.groupBy [text])
      { d with groupBy := some text } := .groupBy [text]
  have hverdict := hv.violation?_of_becomes ht trivial
  rw [if_pos hs] at hverdict
  exact hverdict

theorem Descriptor.isValid_groupBy_iff {d : Descriptor} (hs : d.clauseStyle = .inline)
    (hv : { d with groupBy := none }.IsValid) {text : String} :
    { d with groupBy := some text }.IsValid ↔ isIdentifierList text = true := by
  rw [IsValid, violation?_groupBy hs hv, checkText_eq_none_iff]

namespace Query

variable {κ : Type}

/-- Which texts are identifiers, and which groupings are accepted where they are
written out and nothing else is wrong: the texts whose pieces are identifiers, and so
the lists of at least one column that hold no column which is not accepted alone. What
is not accepted is told. -/
theorem grouping_grammar :
    (∀ s, isIdentifier s = true ↔
        SimpleName s ∨
          ∃ name member, s = name ++ "." ++ member ∧ SimpleName name ∧
            (SimpleName member ∨ member = "*")) ∧
      (∀ s, isIdentifier s = true → ∀ c ∈ s.toList, Text.isBlank c = false) ∧
      (∀ d : Descriptor, d.clauseStyle = .inline → { d with groupBy := none }.IsValid →
        ∀ text, { d with groupBy := some text }.IsValid ↔
          ∀ piece ∈ (text.split ',').toList.map (·.copy),
            isIdentifier (Text.trim piece) = true) ∧
      ∀ q : Query κ, q.descriptor.clauseStyle = .inline →
        { q.descriptor with groupBy := none }.IsValid →
        ∀ columns, ∃ r, q.apply (.groupBy columns) = .ok r ∧
          (r.descriptor.IsValid ↔
            columns ≠ [] ∧ ∀ column ∈ columns,
              ∃ p, q.apply (.groupBy [column]) = .ok p ∧ p.descriptor.IsValid) ∧
          (¬ r.descriptor.IsValid →
            r.violation? = some (.unsafeClause .groupBy (Text.listing columns))) := by
  refine ⟨fun s => Identifier.isIdentifier_iff, fun s h c hc => ?_, fun d hs hv text => ?_,
    fun q hs hv columns => ⟨_, rfl, ?_, fun hne => ?_⟩⟩
  · exact Identifier.isBlank_of_isIdentifierPart
      (Identifier.isIdentifierPart_of_isIdentifier h hc)
  · rw [Descriptor.isValid_groupBy_iff hs hv, Identifier.isIdentifierList_iff]
  · rw [Descriptor.isValid_groupBy_iff hs hv, Identifier.isIdentifierList_listing]
    refine and_congr_right fun _ => forall₂_congr fun column _ => ?_
    -- a column that stands alone is all of its list
    have halone : { q.descriptor with groupBy := some (Text.listing [column]) }.IsValid ↔
        isIdentifierList column = true := Descriptor.isValid_groupBy_iff hs hv
    rw [← halone]
    constructor
    · exact fun h => ⟨_, rfl, h⟩
    · rintro ⟨p, hp, h⟩
      cases hp
      exact h
  · have hlist := (Descriptor.isValid_groupBy_iff hs hv).not.mp hne
    exact (Descriptor.violation?_groupBy hs hv _).trans (if_neg hlist)

/-- Blanks of any kind may stand around the columns, and not within one. -/
theorem grouping_grammar_posts :
    let q : Query Unit := ofOptions { table := some "posts", clauseStyle := .inline }
    let columns := ["posts.day ,\u3000author\n", " tags.*"]
    ∃ r p, q.apply (.groupBy columns) = .ok r ∧ r.descriptor.IsValid ∧
      q.apply (.groupBy ("author DESC" :: columns)) = .ok p ∧
      p.violation? =
        some (.unsafeClause .groupBy "author DESC, posts.day ,\u3000author\n,  tags.*") ∧
      isIdentifier "author\n" = false := by
  intro q columns
  obtain ⟨-, hblank, -, hgroupBy⟩ := grouping_grammar (κ := Unit)
  have hv : { q.descriptor with groupBy := none }.IsValid := by decide
  obtain ⟨r, hr, hvalid, -⟩ := hgroupBy q rfl hv columns
  obtain ⟨p, hp, hrefused, htold⟩ := hgroupBy q rfl hv ("author DESC" :: columns)
  have halone : ∀ column ∈ columns,
      ∃ p, q.apply (.groupBy [column]) = .ok p ∧ p.descriptor.IsValid := by
    rw [List.forall_mem_cons, List.forall_mem_singleton]
    exact ⟨⟨_, rfl, by decide⟩, ⟨_, rfl, by decide⟩⟩
  have hspaced : ¬ p.descriptor.IsValid := by
    rw [hrefused]
    rintro ⟨-, hall⟩
    obtain ⟨alone, ha, h⟩ := hall "author DESC" List.mem_cons_self
    cases ha
    exact absurd h (by decide)
  refine ⟨r, p, hr, hvalid.mpr ⟨by decide, halone⟩, hp, htold hspaced, ?_⟩
  rw [Bool.eq_false_iff]
  intro h
  exact absurd (hblank _ h '\n' (by decide)) (by decide)

end Query

end SqlChain
