import SqlChain.Keyed
import SqlChain.Value.Basic

/-!
# Descriptors

What a chain of calls has said so far about a statement. Several kinds of
statement can be spoken of in one chain; the first call that names a kind
settles it, and what belongs to another kind is kept and never rendered.
-/

namespace SqlChain

/-- The kinds of statements. -/
inductive Mode where
  | select
  | insert
  | update
  | delete
deriving DecidableEq, Repr

/-- The kinds of joins; a query has at most one of each. -/
inductive JoinKind where
  | left
  | right
  | inner
  | outer
deriving DecidableEq, Repr

/-- The words for a join. SQLite has no bare OUTER JOIN. -/
def JoinKind.text : JoinKind → String
  | .left => "LEFT"
  | .right => "RIGHT"
  | .inner => "INNER"
  | .outer => "FULL OUTER"

/-- Whether the expressions of GROUP BY, HAVING and ORDER BY are sent as
parameters or written into the text. -/
inductive ClauseStyle where
  | bound
  | inline
deriving DecidableEq, Repr, Inhabited

/-- The state of a chain. -/
structure Descriptor where
  mode : Option Mode := none
  fromTable : Option String := none
  insertTable : Option String := none
  updateTable : Option String := none
  deleteTable : Option String := none
  selectColumns : Option String := none
  count : Option String := none
  joins : List (JoinKind × String) := []
  onClause : Option String := none
  whereClause : Option String := none
  whereParameters : List Value := []
  groupBy : Option String := none
  having : Option String := none
  orderBy : List String := []
  limit : Option UInt64 := none
  offset : Option UInt64 := none
  setClause : Option String := none
  setParameters : List Value := []
  insertColumns : List String := []
  insertParameters : List Value := []
  force : Bool := false
  clauseStyle : ClauseStyle := .bound
deriving DecidableEq, Repr, Inhabited

namespace Descriptor

/-- The kind of statement. A table to select from makes a SELECT of a chain
that has named no kind. -/
def effectiveMode (d : Descriptor) : Option Mode :=
  d.mode <|> d.fromTable.map fun _ => .select

/-- The table that the statement is about. -/
def targetTable (d : Descriptor) : Option String :=
  match d.effectiveMode with
  | none => none
  | some .select => d.fromTable
  | some .insert => d.insertTable
  | some .update => d.updateTable
  | some .delete => d.deleteTable

/-- Name the kind of statement, unless it is settled. -/
def claim (d : Descriptor) (mode : Mode) : Descriptor := { d with mode := d.mode <|> some mode }

/-- Record a join; an earlier one of its kind gives way in its place. -/
def join (d : Descriptor) (kind : JoinKind) (table : String) : Descriptor :=
  { d with joins := Keyed.put d.joins kind table }

/-- Whether two lists of values agree one by one. -/
def alikeValues : List Value → List Value → Bool
  | [], [] => true
  | v :: vs, w :: ws => v.alike w && alikeValues vs ws
  | _, _ => false

/-- Whether two descriptors agree, floats compared as numbers. -/
def alike (d e : Descriptor) : Bool :=
  alikeValues d.whereParameters e.whereParameters &&
    alikeValues d.setParameters e.setParameters &&
    alikeValues d.insertParameters e.insertParameters &&
    { d with whereParameters := [], setParameters := [], insertParameters := [] } ==
      { e with whereParameters := [], setParameters := [], insertParameters := [] }

end Descriptor

end SqlChain
