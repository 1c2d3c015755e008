import SqlChain.Identifier

/-!
# The alphabets of inlined text

What is written into a statement unquoted goes through one of three
recognisers, and each lets only so many characters pass. This file reads the
alphabet off each recogniser: a character of accepted text is one that the
recogniser took at some point, and at every point it takes from a known set.

The recognisers hand on the rest of their input, so the lemmas about the parts
have one shape: a character of the input is in the alphabet of the part, or it
is in the rest.
-/

namespace SqlChain.Text

theorem mem_dropWhile_or {p : Char → Bool} {cs : List Char} {c : Char} (h : c ∈ cs) :
    p c = true ∨ c ∈ cs.dropWhile p := by
  rw [← List.takeWhile_append_dropWhile (p := p) (l := cs)] at h
  rcases List.mem_append.mp h with ht | hd
  · exact .inl (List.all_eq_true.mp List.all_takeWhile c ht)
  · exact .inr hd

theorem isBlank_or_mem_skipBlanks {cs : List Char} {c : Char} (h : c ∈ cs) :
    isBlank c = true ∨ c ∈ skipBlanks cs := mem_dropWhile_or h

theorem isBlank_or_mem_trimList {cs : List Char} {c : Char} (h : c ∈ cs) :
    isBlank c = true ∨ c ∈ trimList cs := by
  rcases isBlank_or_mem_skipBlanks h with hb | hs
  · exact .inl hb
  · rcases isBlank_or_mem_skipBlanks (List.mem_reverse.mpr hs) with hb | ht
    · exact .inl hb
    · exact .inr (List.mem_reverse.mpr ht)

end SqlChain.Text

namespace SqlChain.Identifier

open Text (isBlank skipBlanks)

/-- The characters of identifiers. -/
def isIdentifierPart (c : Char) : Bool := isNamePart c || c == '.' || c == '*'

/-- The characters of lists of identifiers. -/
def isListPart (c : Char) : Bool := isIdentifierPart c || isBlank c || c == ','

/-- The characters of terms of ORDER BY. The long s is there for the sake of
the directions. -/
def isOrderPart (c : Char) : Bool := isIdentifierPart c || isBlank c || c == 'ſ'

/-! ## Names and identifiers -/

theorem isNamePart_of_isNameStart {c : Char} (h : isNameStart c = true) : isNamePart c = true := by
  simp only [isNameStart, Bool.or_eq_true] at h
  rcases h with ha | hu
  · simp [isNamePart, Char.isAlphanum, ha]
  · simp [isNamePart, hu]

theorem isNamePart_or_mem_rest {cs rest : List Char} (h : afterName? cs = some rest) {c : Char}
    (hc : c ∈ cs) : isNamePart c = true ∨ c ∈ rest := by
  cases cs with
  | nil => cases h
  | cons first others =>
      simp only [afterName?] at h
      split at h
      · next hs =>
          cases h
          rcases List.mem_cons.mp hc with rfl | ho
          · exact .inl (isNamePart_of_isNameStart hs)
          · exact Text.mem_dropWhile_or ho
      · cases h

theorem isIdentifierPart_of_isNamePart {c : Char} (h : isNamePart c = true) :
    isIdentifierPart c = true := by simp [isIdentifierPart, h]

theorem isIdentifierPart_or_mem_rest {cs rest : List Char} (h : afterIdentifier? cs = some rest)
    {c : Char} (hc : c ∈ cs) : isIdentifierPart c = true ∨ c ∈ rest := by
  rw [afterIdentifier?] at h
  split at h
  · next hn =>
      cases h
      rcases isNamePart_or_mem_rest hn hc with hp | hr
      · exact .inl (isIdentifierPart_of_isNamePart hp)
      · rcases List.mem_cons.mp hr with rfl | hr
        · exact .inl (by decide)
        · rcases List.mem_cons.mp hr with rfl | hr
          · exact .inl (by decide)
          · exact .inr hr
  · next hn =>
      rcases isNamePart_or_mem_rest hn hc with hp | hr
      · exact .inl (isIdentifierPart_of_isNamePart hp)
      · rcases List.mem_cons.mp hr with rfl | hr
        · exact .inl (by decide)
        · rcases isNamePart_or_mem_rest h hr with hp | hr
          · exact .inl (isIdentifierPart_of_isNamePart hp)
          · exact .inr hr
  · rcases isNamePart_or_mem_rest h hc with hp | hr
    · exact .inl (isIdentifierPart_of_isNamePart hp)
    · exact .inr hr

/-! ## Lists of identifiers -/

theorem isListPart_of_isIdentifierPart {c : Char} (h : isIdentifierPart c = true) :
    isListPart c = true := by simp [isListPart, h]

theorem isListPart_of_isBlank {c : Char} (h : isBlank c = true) : isListPart c = true := by
  simp [isListPart, h]

theorem isListPart_of_listGoesOn {fuel : Nat} {cs : List Char} (h : listGoesOn fuel cs = true)
    {c : Char} (hc : c ∈ cs) : isListPart c = true := by
  induction fuel generalizing cs with
  | zero => cases h
  | succ fuel ih =>
      rcases Text.isBlank_or_mem_skipBlanks hc with hb | hs
      · exact isListPart_of_isBlank hb
      · rw [listGoesOn] at h
        split at h
        · next hn => rw [hn] at hs; cases hs
        · next others hn =>
            rw [hn] at hs
            rcases List.mem_cons.mp hs with rfl | ho
            · decide
            · rcases Text.isBlank_or_mem_skipBlanks ho with hb | ho
              · exact isListPart_of_isBlank hb
              · split at h
                · next rest hi =>
                    rcases isIdentifierPart_or_mem_rest hi ho with hp | hr
                    · exact isListPart_of_isIdentifierPart hp
                    · exact ih h hr
                · cases h
        · cases h

/-- The text of a list of identifiers. -/
theorem isListPart_of_isIdentifierList {s : String} (h : isIdentifierList s = true) {c : Char}
    (hc : c ∈ s.toList) : isListPart c = true := by
  rcases Text.isBlank_or_mem_skipBlanks hc with hb | hs
  · exact isListPart_of_isBlank hb
  · rw [isIdentifierList] at h
    split at h
    · next rest hi =>
        rcases isIdentifierPart_or_mem_rest hi hs with hp | hr
        · exact isListPart_of_isIdentifierPart hp
        · exact isListPart_of_listGoesOn h hr
    · cases h

/-! ## Terms of ORDER BY -/

theorem isOrderPart_of_isIdentifierPart {c : Char} (h : isIdentifierPart c = true) :
    isOrderPart c = true := by simp [isOrderPart, h]

theorem isOrderPart_of_isBlank {c : Char} (h : isBlank c = true) : isOrderPart c = true := by
  simp [isOrderPart, h]

/-- A character that folds to a letter is one itself, or the long s. -/
theorem isOrderPart_of_foldCase {c : Char} (h : (foldCase c).isAlpha = true) :
    isOrderPart c = true := by
  rw [foldCase] at h
  split at h
  · next hs => subst hs; decide
  · have ha : c.isAlpha = true := by
      by_cases hu : c.isUpper = true
      · exact Bool.or_eq_true_iff.mpr (.inl hu)
      · have hlower : c.toLower = c := dif_neg fun hc => hu (decide_eq_true hc)
        rw [hlower] at h
        exact h
    have hname : c.isAlphanum = true := Bool.or_eq_true_iff.mpr (.inl ha)
    exact isOrderPart_of_isIdentifierPart
      (isIdentifierPart_of_isNamePart (Bool.or_eq_true_iff.mpr (.inl hname)))

theorem isOrderPart_of_isDirection {word : List Char} (h : isDirection word = true) {c : Char}
    (hc : c ∈ word) : isOrderPart c = true := by
  have hm : foldCase c ∈ word.map foldCase := List.mem_map_of_mem hc
  have hletters : (word.map foldCase).all Char.isAlpha = true := by
    simp only [isDirection, Bool.or_eq_true, beq_iff_eq] at h
    rcases h with hw | hw <;> rw [hw] <;> rfl
  exact isOrderPart_of_foldCase (List.all_eq_true.mp hletters _ hm)

/-- The text of a term of ORDER BY. -/
theorem isOrderPart_of_isOrderTerm {s : String} (h : isOrderTerm s = true) {c : Char}
    (hc : c ∈ s.toList) : isOrderPart c = true := by
  rcases Text.isBlank_or_mem_skipBlanks hc with hb | hs
  · exact isOrderPart_of_isBlank hb
  · rw [isOrderTerm] at h
    split at h
    · cases h
    · next hi =>
        rcases isIdentifierPart_or_mem_rest hi hs with hp | hr
        · exact isOrderPart_of_isIdentifierPart hp
        · cases hr
    · next first others hi =>
        obtain ⟨hfirst, hword⟩ := Bool.and_eq_true_iff.mp h
        rcases isIdentifierPart_or_mem_rest hi hs with hp | hr
        · exact isOrderPart_of_isIdentifierPart hp
        · rcases List.mem_cons.mp hr with rfl | ho
          · exact isOrderPart_of_isBlank hfirst
          · rcases Text.isBlank_or_mem_trimList ho with hb | ht
            · exact isOrderPart_of_isBlank hb
            · rcases Bool.or_eq_true_iff.mp hword with he | hd
              · rw [List.isEmpty_iff.mp he] at ht; cases ht
              · exact isOrderPart_of_isDirection hd ht

/-! ## Expressions of HAVING -/

theorem isHavingPart_of_isHavingText {s : String} (h : isHavingText s = true) {c : Char}
    (hc : c ∈ s.toList) : isHavingPart c = true :=
  List.all_eq_true.mp (Bool.and_eq_true_iff.mp h).2 c hc

end SqlChain.Identifier
