import SqlChain.Descriptor
import SqlChain.Text.Listing

/-!
# Statements

A statement is a sequence of clauses, and a clause a piece of text together
with the values for its placeholders. Compiling a descriptor lays out its
clauses; the text and the parameters of the statement are the texts and the
values of the clauses, joined in the same order. That is what keeps the
placeholders and the parameters in step.

Under the bound style the expressions of GROUP BY, HAVING and ORDER BY are
values, and WHERE comes after HAVING. Under the inline style they are text, in
the order of the SQL grammar. LIMIT and OFFSET are values under both.
-/

namespace SqlChain

/-- A piece of a statement and the values of its placeholders. -/
structure Clause where
  text : String
  values : List Value := []
deriving DecidableEq, Repr, Inhabited

/-- A statement ready to be prepared and bound. -/
structure Statement where
  sql : String
  parameters : List Value
deriving DecidableEq, Repr, Inhabited

/-- Join clauses to a statement. -/
def Statement.ofClauses (clauses : List Clause) : Statement :=
  ⟨String.join (clauses.map Clause.text), clauses.flatMap Clause.values⟩

/-- A clause stands in the text where its values stand among the parameters: behind what
the clauses before it come to, and before what those behind it do. -/
theorem Statement.ofClauses_append_cons (front : List Clause) (c : Clause) (back : List Clause) :
    ofClauses (front ++ c :: back) =
      ⟨(ofClauses front).sql ++ c.text ++ (ofClauses back).sql,
        (ofClauses front).parameters ++ c.values ++ (ofClauses back).parameters⟩ := by
  simp only [ofClauses, List.map_append, List.map_cons, String.join_append, String.join_cons,
    List.flatMap_append, List.flatMap_cons, String.append_assoc, List.append_assoc]

namespace Clause

/-- No text and no values. -/
def nothing : Clause := ⟨"", []⟩

/-- The clause that `clause` makes of a value, if there is one. -/
def ofOption {α : Type} (clause : α → Clause) : Option α → Clause
  | some x => clause x
  | none => nothing

end Clause

namespace Descriptor

/-! ## The head -/

/-- What a SELECT returns: a count, named columns or all columns. -/
def selection (d : Descriptor) : String :=
  match d.count, d.selectColumns with
  | some expression, _ => "COUNT(" ++ expression ++ ")"
  | none, some columns => columns
  | none, none => "*"

/-- The table of the statement; a missing one leaves its place empty. -/
def tableText (d : Descriptor) : String := d.targetTable.getD ""

/-- The joins, in the order in which their kinds were first named. -/
def joinsText (d : Descriptor) : String :=
  String.join (d.joins.map fun j => " " ++ j.1.text ++ " JOIN " ++ j.2)

/-- The condition of the joins. -/
def onText (d : Descriptor) : String :=
  match d.onClause with
  | some clause => " ON " ++ clause
  | none => ""

/-- The head of a SELECT. -/
def selectHead (d : Descriptor) : Clause :=
  ⟨"SELECT " ++ d.selection ++ " FROM " ++ d.tableText ++ d.joinsText ++ d.onText, []⟩

theorem text_selectHead (d : Descriptor) :
    d.selectHead.text =
      "SELECT " ++ d.selection ++ " FROM " ++ d.tableText ++ d.joinsText ++ d.onText := rfl

/-- The head of an INSERT: as many placeholders as columns. -/
def insertHead (d : Descriptor) : Clause :=
  ⟨"INSERT INTO " ++ d.tableText ++ " (" ++ Text.listing d.insertColumns ++ ") VALUES (" ++
      Text.placeholderList d.insertColumns.length ++ ")",
    d.insertParameters⟩

theorem text_insertHead (d : Descriptor) :
    d.insertHead.text =
      "INSERT INTO " ++ d.tableText ++ " (" ++ Text.listing d.insertColumns ++ ") VALUES (" ++
        Text.placeholderList d.insertColumns.length ++ ")" := rfl

/-- The head of an UPDATE, with its assignments if there are any. -/
def updateHead (d : Descriptor) : Clause :=
  match d.setClause with
  | some assignments => ⟨"UPDATE " ++ d.tableText ++ " SET " ++ assignments, d.setParameters⟩
  | none => ⟨"UPDATE " ++ d.tableText, []⟩

/-- The head of a DELETE. -/
def deleteHead (d : Descriptor) : Clause := ⟨"DELETE FROM " ++ d.tableText, []⟩

/-- The part of the statement before its first optional clause. -/
def head (d : Descriptor) : Clause :=
  match d.effectiveMode with
  | some .select => d.selectHead
  | some .insert => d.insertHead
  | some .update => d.updateHead
  | some .delete => d.deleteHead
  | none => .nothing

/-! ## The tail -/

/-- The predicate, with all values that conditions have bound. -/
def whereTail (d : Descriptor) : Clause :=
  match d.whereClause with
  | some predicate => ⟨" WHERE " ++ predicate, d.whereParameters⟩
  | none => ⟨"", d.whereParameters⟩

theorem whereTail_of_some {d : Descriptor} {predicate : String}
    (h : d.whereClause = some predicate) :
    d.whereTail = ⟨" WHERE " ++ predicate, d.whereParameters⟩ := by
  rw [whereTail, h]

/-- The columns of GROUP BY, by style. -/
def groupByTail (style : ClauseStyle) (d : Descriptor) : Clause :=
  Clause.ofOption
    (fun columns => match style with
      | .bound => ⟨" GROUP BY ?", [.text columns]⟩
      | .inline => ⟨" GROUP BY " ++ columns, []⟩)
    d.groupBy

/-- The expression of HAVING, by style. -/
def havingTail (style : ClauseStyle) (d : Descriptor) : Clause :=
  Clause.ofOption
    (fun expression => match style with
      | .bound => ⟨" HAVING ?", [.text expression]⟩
      | .inline => ⟨" HAVING " ++ expression, []⟩)
    d.having

/-- The terms of ORDER BY, by style. -/
def orderByTail (style : ClauseStyle) (d : Descriptor) : Clause :=
  match d.orderBy with
  | [] => .nothing
  | terms =>
      match style with
      | .bound => ⟨" ORDER BY " ++ Text.placeholderList terms.length, terms.map .text⟩
      | .inline => ⟨" ORDER BY " ++ Text.listing terms, []⟩

/-- The greatest number of rows. -/
def limitTail (d : Descriptor) : Clause :=
  Clause.ofOption (fun n => ⟨" LIMIT ?", [.ofCount n]⟩) d.limit

/-- The number of rows passed over. -/
def offsetTail (d : Descriptor) : Clause :=
  Clause.ofOption (fun n => ⟨" OFFSET ?", [.ofCount n]⟩) d.offset

/-- The optional clauses, in the order that the style prescribes. -/
def tail (d : Descriptor) : List Clause :=
  match d.clauseStyle with
  | .bound =>
      [d.groupByTail .bound, d.havingTail .bound, d.whereTail, d.orderByTail .bound,
        d.limitTail, d.offsetTail]
  | .inline =>
      [d.whereTail, d.groupByTail .inline, d.havingTail .inline, d.orderByTail .inline,
        d.limitTail, d.offsetTail]

/-- All clauses of the statement. -/
def clauses (d : Descriptor) : List Clause := d.head :: d.tail

theorem whereTail_mem_clauses (d : Descriptor) : d.whereTail ∈ d.clauses := by
  rw [clauses, tail]
  cases d.clauseStyle <;> simp

/-- The statement that the descriptor describes, whether or not it is valid. -/
def compile (d : Descriptor) : Statement := .ofClauses d.clauses

/-- The predicate stands in the statement as it is, behind all that the clauses before it
come to, and so do the values that conditions have bound. -/
theorem exists_compile_eq_where {d : Descriptor} {predicate : String}
    (h : d.whereClause = some predicate) :
    ∃ front back, d.clauses = front ++ d.whereTail :: back ∧
      d.compile =
        ⟨(Statement.ofClauses front).sql ++ " WHERE " ++ predicate ++
            (Statement.ofClauses back).sql,
          (Statement.ofClauses front).parameters ++ d.whereParameters ++
            (Statement.ofClauses back).parameters⟩ := by
  obtain ⟨front, back, hclauses⟩ := List.append_of_mem d.whereTail_mem_clauses
  refine ⟨front, back, hclauses, ?_⟩
  rw [compile, hclauses, Statement.ofClauses_append_cons, whereTail_of_some h]
  simp only [String.append_assoc]

end Descriptor

end SqlChain
