import SqlChain.Proofs.Alphabet
import SqlChain.Proofs.ClosedForm
import SqlChain.Sqlite.Compare
import SqlChain.Sqlite.Reader

/-!
# Reading a predicate

A chain writes its predicate down as text with a question mark for each value, and what
it means is settled by whoever reads it. The reader of this file knows nothing of the
chain. It goes by the rules of SQL, as far as plain conditions need them: blanks divide
the text into words, `AND` and `OR` in any case stand between conditions, a question
mark takes the next value, and `AND` binds tighter than `OR`. What is not made of plain
conditions it does not read.

What plain conditions were written as is read as these conditions, each with its own
value. The text is followed from the front: words, then the pieces between connectives,
then a condition for each piece.
-/

namespace SqlChain

open Sqlite (Truth isSpace upperWord)

/-! ## Words -/

/-- The words of a text, divided by blanks. -/
def Text.words (s : String) : List String :=
  ((s.toList.splitOnP isSpace).filter (!·.isEmpty)).map String.ofList

theorem Text.words_append_blank (s t : String) : words (s ++ " " ++ t) = words s ++ words t := by
  have hblank : (s ++ " " ++ t).toList = s.toList ++ ' ' :: t.toList := by
    rw [String.append_assoc, String.toList_append, String.toList_append]
    rfl
  rw [words, hblank, List.splitOnP_append_cons s.toList t.toList (by decide), List.filter_append,
    List.map_append, words, words]

theorem Text.words_eq_singleton {s : String} (hne : s ≠ "")
    (hs : ∀ c ∈ s.toList, isSpace c = false) : words s = [s] := by
  have hfilter : [s.toList].filter (!·.isEmpty) = [s.toList] := by simp [hne]
  rw [words, List.splitOnP_eq_singleton hs, hfilter, List.map_singleton, String.ofList_toList]

/-- The connective that a word is, in any case. -/
def Connective.ofWord? (word : String) : Option Connective :=
  if upperWord word = "AND" then some .and
  else if upperWord word = "OR" then some .or
  else none

/-! ## Plain conditions -/

namespace Condition

/-- The operators of plain conditions. -/
def plainOperators : List String :=
  ["=", "!=", "<>", ">", "<", ">=", "<=", "LIKE", "GLOB", "IS", "IS NOT", "IS NULL",
    "IS NOT NULL"]

/-- The column is an identifier and no connective, and the operator compares, matches a
pattern or asks for null. -/
def IsPlain (c : Condition) : Prop :=
  Identifier.isIdentifier c.column = true ∧ Connective.ofWord? c.column = none ∧
    c.operator.text ∈ plainOperators

instance (c : Condition) : Decidable c.IsPlain := inferInstanceAs (Decidable (_ ∧ _ ∧ _))

end Condition

/-! ## The reader -/

/-- What a predicate says. -/
inductive Formula where
  | condition (c : Condition)
  | and (f g : Formula)
  | or (f g : Formula)
deriving DecidableEq

namespace Formula

/-- The truth of a formula, from that of its conditions. -/
def truth (holds : Condition → Truth) : Formula → Truth
  | .condition c => holds c
  | .and f g => (f.truth holds).and (g.truth holds)
  | .or f g => (f.truth holds).or (g.truth holds)

/-- The formula that begins with the conjunction `f`: `AND` goes on with it, and `OR`
ends it. -/
def ofLinks (f : Formula) : List (Connective × Condition) → Formula
  | [] => f
  | (.and, c) :: links => ofLinks (.and f (.condition c)) links
  | (.or, c) :: links => .or f (ofLinks (.condition c) links)

/-- The words up to the first connective, and each connective with the words after it. -/
def pieces : List String → List String × List (Connective × List String)
  | [] => ([], [])
  | word :: words =>
      let (piece, later) := pieces words
      match Connective.ofWord? word with
      | none => (word :: piece, later)
      | some connective => ([], (connective, piece) :: later)

/-- The condition and the values that are left for others, if the condition is plain. -/
def plain? (c : Condition) (left : List Value) : Option (Condition × List Value) :=
  if c.IsPlain then some (c, left) else none

/-- Read a column, the words of an operator and perhaps a question mark, which takes the
first of the values. -/
def readCondition? : List String → List Value → Option (Condition × List Value)
  | [], _ => none
  | column :: words, values =>
      if words.getLast? = some "?" then
        values.head?.bind fun value =>
          plain? ⟨column, ⟨" ".intercalate words.dropLast⟩, some value⟩ values.tail
      else plain? ⟨column, ⟨" ".intercalate words⟩, none⟩ values

/-- Read a condition after each connective, until no value is left. -/
def readLinks? :
    List (Connective × List String) → List Value → Option (List (Connective × Condition))
  | [], [] => some []
  | [], _ :: _ => none
  | (connective, piece) :: later, values => do
      let (c, left) ← readCondition? piece values
      let links ← readLinks? later left
      return (connective, c) :: links

/-- Read a predicate, with the values for its question marks. -/
def read? (text : String) (values : List Value) : Option Formula := do
  let (first, later) := pieces (Text.words text)
  let (c, left) ← readCondition? first values
  let links ← readLinks? later left
  return ofLinks (.condition c) links

/-! ## Reading back -/

/-- What a connective writes with its condition. -/
def linkText (link : Connective × Condition) : String :=
  " " ++ link.1.text ++ " " ++ link.2.sql

theorem isSpace_of_isIdentifierPart {x : Char} (h : Identifier.isIdentifierPart x = true) :
    isSpace x = false := by
  cases hx : isSpace x with
  | false => rfl
  | true =>
      simp only [isSpace, Bool.or_eq_true, decide_eq_true_eq] at hx
      rcases hx with (((rfl | rfl) | rfl) | rfl) | rfl <;> revert h <;> decide

theorem words_operator {c : Condition} (h : c.IsPlain) :
    (Text.words c.operator.text).getLast? ≠ some "?" ∧
      " ".intercalate (Text.words c.operator.text) = c.operator.text ∧
      ∀ word ∈ Text.words c.operator.text, Connective.ofWord? word = none := by
  -- there are few operators, and each is looked at
  have hall : ∀ text ∈ Condition.plainOperators, (Text.words text).getLast? ≠ some "?" ∧
      " ".intercalate (Text.words text) = text ∧
      ∀ word ∈ Text.words text, Connective.ofWord? word = none := by decide
  exact hall c.operator.text h.2.2

theorem words_column {c : Condition} (h : c.IsPlain) : Text.words c.column = [c.column] := by
  have hidentifier : Identifier.afterIdentifier? c.column.toList = some [] := by
    simpa [Identifier.isIdentifier] using h.1
  have hne : c.column ≠ "" := by
    intro hempty
    rw [hempty] at hidentifier
    cases hidentifier
  refine Text.words_eq_singleton hne fun x hx => ?_
  rcases Identifier.isIdentifierPart_or_mem_rest hidentifier hx with hpart | hnil
  · exact isSpace_of_isIdentifierPart hpart
  · exact absurd hnil List.not_mem_nil

/-- The question mark of a condition, if it has one. -/
def mark (c : Condition) : List String := if c.value.isSome then ["?"] else []

theorem words_sql {c : Condition} (h : c.IsPlain) :
    Text.words c.sql = c.column :: (Text.words c.operator.text ++ mark c) := by
  have hfront : Text.words (c.column ++ " " ++ c.operator.text) =
      c.column :: Text.words c.operator.text := by
    rw [Text.words_append_blank, words_column h, List.singleton_append]
  rw [c.sql_eq, mark]
  cases c.value with
  | none =>
      show Text.words (c.column ++ " " ++ c.operator.text ++ "") = _ :: (_ ++ [])
      rw [String.append_empty, hfront, List.append_nil]
  | some v =>
      have hmark : Text.words "?" = ["?"] := by decide
      show Text.words (c.column ++ " " ++ c.operator.text ++ (" " ++ "?")) = _ :: (_ ++ ["?"])
      rw [← String.append_assoc, Text.words_append_blank, hfront, hmark, List.cons_append]

/-- A plain condition is read with its own value, and leaves the others. -/
theorem readCondition?_words {c : Condition} (h : c.IsPlain) (left : List Value) :
    readCondition? (Text.words c.sql) (c.values ++ left) = some (c, left) := by
  obtain ⟨hlast, hjoin, -⟩ := words_operator h
  rw [words_sql h, mark]
  obtain ⟨column, operator, value⟩ := c
  cases value with
  | none =>
      show readCondition? (column :: (Text.words operator.text ++ [])) left = _
      rw [List.append_nil, readCondition?, if_neg hlast, hjoin, plain?, if_pos h]
  | some v =>
      show readCondition? (column :: (Text.words operator.text ++ ["?"])) (v :: left) = _
      rw [readCondition?, if_pos List.getLast?_concat, List.dropLast_concat, hjoin]
      exact if_pos h

theorem words_links (text : String) (links : List (Connective × Condition)) :
    Text.words (text ++ String.join (links.map linkText)) =
      Text.words text ++ links.flatMap fun l => l.1.text :: Text.words l.2.sql := by
  -- the condition of each link is the text before the links that follow
  induction links generalizing text with
  | nil =>
      show Text.words (text ++ "") = _ ++ []
      rw [String.append_empty, List.append_nil]
  | cons l links ih =>
      have hword : Text.words l.1.text = [l.1.text] := by cases l.1 <;> decide
      have hsplit : text ++ String.join ((l :: links).map linkText) =
          text ++ " " ++ (l.1.text ++ " " ++ (l.2.sql ++ String.join (links.map linkText))) := by
        rw [List.map_cons, String.join_cons, linkText]
        simp only [String.append_assoc]
      rw [hsplit, Text.words_append_blank, Text.words_append_blank, hword, ih, List.flatMap_cons]
      rfl

theorem pieces_append {words : List String} (h : ∀ word ∈ words, Connective.ofWord? word = none)
    (later : List String) :
    pieces (words ++ later) = (words ++ (pieces later).1, (pieces later).2) := by
  induction words with
  | nil => rfl
  | cons word words ih =>
      obtain ⟨hword, hwords⟩ := List.forall_mem_cons.mp h
      rw [List.cons_append, pieces, ih hwords, hword]
      rfl

/-- No word of a plain condition is a connective. -/
theorem ofWord?_words_sql {c : Condition} (h : c.IsPlain) :
    ∀ word ∈ Text.words c.sql, Connective.ofWord? word = none := by
  obtain ⟨-, -, hoperator⟩ := words_operator h
  have hmark : ∀ word ∈ mark c, Connective.ofWord? word = none := by
    rw [mark]
    split <;> decide
  rw [words_sql h]
  exact List.forall_mem_cons.mpr ⟨h.2.1, List.forall_mem_append.mpr ⟨hoperator, hmark⟩⟩

theorem pieces_links {links : List (Connective × Condition)} (h : ∀ l ∈ links, l.2.IsPlain) :
    pieces (links.flatMap fun l => l.1.text :: Text.words l.2.sql) =
      ([], links.map fun l => (l.1, Text.words l.2.sql)) := by
  induction links with
  | nil => rfl
  | cons l links ih =>
      obtain ⟨hl, hlinks⟩ := List.forall_mem_cons.mp h
      have hconnective : Connective.ofWord? l.1.text = some l.1 := by cases l.1 <;> decide
      rw [List.flatMap_cons, List.cons_append, pieces, pieces_append (ofWord?_words_sql hl),
        ih hlinks, hconnective]
      simp only [List.append_nil, List.map_cons]

theorem readLinks?_words {links : List (Connective × Condition)} (h : ∀ l ∈ links, l.2.IsPlain) :
    readLinks? (links.map fun l => (l.1, Text.words l.2.sql)) (links.flatMap (·.2.values)) =
      some links := by
  induction links with
  | nil => rfl
  | cons l links ih =>
      obtain ⟨hl, hlinks⟩ := List.forall_mem_cons.mp h
      rw [List.map_cons, List.flatMap_cons, readLinks?, readCondition?_words hl]
      show (readLinks? _ _ >>= fun links => some (l :: links)) = _
      rw [ih hlinks]
      rfl

/-- What plain conditions were written as is read as these conditions. -/
theorem read?_text {c : Condition} {links : List (Connective × Condition)} (hc : c.IsPlain)
    (hlinks : ∀ l ∈ links, l.2.IsPlain) :
    read? (c.sql ++ String.join (links.map linkText)) (c.values ++ links.flatMap (·.2.values)) =
      some (ofLinks (.condition c) links) := by
  have hpieces : pieces (Text.words (c.sql ++ String.join (links.map linkText))) =
      (Text.words c.sql, links.map fun l => (l.1, Text.words l.2.sql)) := by
    rw [words_links, pieces_append (ofWord?_words_sql hc), pieces_links hlinks, List.append_nil]
  rw [read?, hpieces]
  show (readCondition? _ _ >>= fun p => readLinks? _ p.2 >>= fun links => _) = _
  rw [readCondition?_words hc]
  show (readLinks? _ _ >>= fun links => _) = _
  rw [readLinks?_words hlinks]
  rfl

end Formula

example : Formula.read? "a = ? OR b IS NULL and c LIKE ?" [.integer 1, .text "x%"] =
    some (.or (.condition ⟨"a", ⟨"="⟩, some (.integer 1)⟩)
      (.and (.condition ⟨"b", ⟨"IS NULL"⟩, none⟩)
        (.condition ⟨"c", ⟨"LIKE"⟩, some (.text "x%")⟩))) := by
  decide

end SqlChain
