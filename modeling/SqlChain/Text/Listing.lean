/-!
# Comma-separated lists and placeholders

SQL lists are separated by a comma and a blank. A placeholder is a question
mark, wherever it stands: a reader of the text alone cannot tell one inside a
quoted literal from one that takes a value.
-/

namespace SqlChain.Text

/-- The items, separated by a comma and a blank. -/
def listing : List String → String
  | [] => ""
  | [item] => item
  | item :: rest => item ++ ", " ++ listing rest

/-- A list of `n` placeholders. -/
def placeholderList (n : Nat) : String := listing (List.replicate n "?")

/-- The number of question marks in a text. -/
def placeholders (s : String) : Nat := s.toList.count '?'

@[simp]
theorem placeholders_append (s t : String) :
    placeholders (s ++ t) = placeholders s + placeholders t := by
  simp [placeholders]

theorem listing_cons_cons (item next : String) (rest : List String) :
    listing (item :: next :: rest) = item ++ ", " ++ listing (next :: rest) := rfl

theorem placeholderList_succ_succ (n : Nat) :
    placeholderList (n + 2) = "?, " ++ placeholderList (n + 1) := rfl

@[simp]
theorem placeholders_placeholderList (n : Nat) : placeholders (placeholderList n) = n := by
  induction n with
  | zero => rfl
  | succ n ih =>
      cases n with
      | zero => decide
      | succ n =>
          have h : placeholders "?, " = 1 := by decide
          rw [placeholderList_succ_succ, placeholders_append, ih, h]
          omega

end SqlChain.Text
