import SqlChain.Condition
import SqlChain.Error.Basic
import SqlChain.Query.Basic
import SqlChain.Record

/-!
# Transitions

The calls of a chain, as data, and what each does to a descriptor. A transition
changes the fields it is about and no others. Two can fail: a condition joined
to a predicate that is not there, and an operator whose spelling is unknown.
The first is looked for before the condition is looked at.
-/

namespace SqlChain

/-- The directions of sorting. -/
inductive Direction where
  | asc
  | desc
deriving DecidableEq, Repr

/-- The words for a direction. -/
def Direction.text : Direction → String
  | .asc => "ASC"
  | .desc => "DESC"

/-- A term of ORDER BY as a caller gives it. -/
inductive OrderTerm where
  | written (text : String)
  | column (name : String) (direction : Direction)
deriving DecidableEq, Repr

/-- The text of a term. -/
def OrderTerm.text : OrderTerm → String
  | .written text => text
  | .column name direction => name ++ " " ++ direction.text

/-- The assignments of a record, a placeholder for each value. -/
def Record.assignments (r : Record) : String :=
  Text.listing (r.columns.map fun column => column ++ " = ?")

/-- The calls of a chain. -/
inductive Transition where
  | select (columns : List String)
  | count (expression : String)
  | fromTable (table : String)
  | join (kind : JoinKind) (table : String)
  | on (left : String) (operator : OperatorArg) (right : String)
  | onRaw (clause : String)
  | filter (condition : ConditionArg)
  | filterRaw (predicate : String)
  | extend (connective : Connective) (condition : ConditionArg)
  | groupBy (columns : List String)
  | having (expression : String)
  | orderBy (term : OrderTerm)
  | limit (n : UInt64)
  | offset (n : UInt64)
  | insertInto (table : String) (data : Record)
  | update (table : String)
  | set (data : Record)
  | deleteFrom (table : String)
  | force (on : Bool)
  | copy
deriving DecidableEq, Repr

/-- How a call fails. -/
inductive ChainError where
  | misuse (m : Misuse)
  | unknownOperator (e : UnknownOperator)
deriving DecidableEq, Repr

/-- The words for a failed call. -/
def ChainError.message : ChainError → String
  | .misuse m => (Error.usage m).message
  | .unknownOperator e => e.message

namespace Descriptor

/-- Replace the predicate by a condition. Values bound before stay bound. -/
def filter (d : Descriptor) (c : Condition) : Descriptor :=
  { d with whereClause := some c.sql, whereParameters := d.whereParameters ++ c.values }

/-- Append a condition to the predicate `predicate`. -/
def extend (d : Descriptor) (predicate : String) (connective : Connective) (c : Condition) :
    Descriptor :=
  { d with
    whereClause := some (predicate ++ " " ++ connective.text ++ " " ++ c.sql)
    whereParameters := d.whereParameters ++ c.values }

/-- What a call does. -/
def apply (d : Descriptor) : Transition → Except ChainError Descriptor
  | .select columns => .ok ({ d with selectColumns := some (Text.listing columns) }.claim .select)
  | .count expression => .ok ({ d with count := some expression }.claim .select)
  | .fromTable table => .ok { d with fromTable := some table }
  | .join kind table => .ok (d.join kind table)
  | .on left operator right => do
      let o ← operator.resolve.mapError .unknownOperator
      return { d with onClause := some (left ++ " " ++ o.text ++ " " ++ right) }
  | .onRaw clause => .ok { d with onClause := some clause }
  | .filter condition => do
      let c ← condition.resolve.mapError .unknownOperator
      return d.filter c
  | .filterRaw predicate => .ok { d with whereClause := some predicate }
  | .extend connective condition =>
      match d.whereClause with
      | none => .error (.misuse (.connectiveBeforeWhere connective))
      | some predicate => do
          let c ← condition.resolve.mapError .unknownOperator
          return d.extend predicate connective c
  | .groupBy columns => .ok { d with groupBy := some (Text.listing columns) }
  | .having expression => .ok { d with having := some expression }
  | .orderBy term => .ok { d with orderBy := d.orderBy ++ [term.text] }
  | .limit n => .ok { d with limit := some n }
  | .offset n => .ok { d with offset := some n }
  | .insertInto table data =>
      .ok ({ d with
        insertTable := some table
        insertColumns := data.columns
        insertParameters := data.values }.claim .insert)
  | .update table => .ok ({ d with updateTable := some table }.claim .update)
  | .set data => .ok { d with setClause := some data.assignments, setParameters := data.values }
  | .deleteFrom table => .ok ({ d with deleteTable := some table }.claim .delete)
  | .force on => .ok { d with force := on }
  | .copy => .ok d

end Descriptor

namespace Query

variable {κ : Type}

/-- Make the query that a call leads to. The options stay those of the root. -/
def apply (q : Query κ) (t : Transition) : Except ChainError (Query κ) :=
  (q.descriptor.apply t).map fun d => { q with descriptor := d }

/-- Make the query that a chain of calls leads to. -/
def chain (q : Query κ) (ts : List Transition) : Except ChainError (Query κ) :=
  ts.foldlM apply q

end Query

end SqlChain
