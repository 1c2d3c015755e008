import SqlChain.Sqlite.Datum

/-!
# Expressions

An expression is a literal, a parameter, a name, or an operation on other
expressions. Names are of a type of their own: as written at first, and places
in a row once they have been looked up.
-/

namespace SqlChain.Sqlite

/-- The type that a column or a cast prefers for its values. -/
inductive Affinity where
  | blob
  | text
  | numeric
  | integer
  | real
deriving DecidableEq, Repr

/-- Whether values are turned into numbers where that loses nothing. -/
def Affinity.isNumeric : Affinity → Bool
  | .blob => false
  | .text => false
  | _ => true

/-- How texts are compared. -/
inductive Collation where
  | binary
  | nocase
  | rtrim
deriving DecidableEq, Repr

/-- The comparisons between two values. -/
inductive Comparison where
  | eq
  | ne
  | lt
  | le
  | gt
  | ge
  | is
  | isNot
deriving DecidableEq, Repr

/-- The languages of patterns. -/
inductive PatternStyle where
  | like
  | glob
deriving DecidableEq, Repr

/-- Arithmetic on two numbers, and on the bits of two integers. -/
inductive Arithmetic where
  | add
  | sub
  | mul
  | div
  | rem
  | bitAnd
  | bitOr
  | shiftLeft
  | shiftRight
deriving DecidableEq, Repr

/-- Summaries of the rows of a group. -/
inductive Aggregate where
  | count
  | sum
  | total
  | avg
  | min
  | max
deriving DecidableEq, Repr

/-- Functions of values. -/
inductive Function where
  | abs
  | coalesce
  | hex
  | length
  | lower
  | upper
  | greatest
  | least
  | nullif
  | typeof
deriving DecidableEq, Repr

/-- What is done with operands. -/
inductive Operation where
  | not
  | and
  | or
  | negate
  | plus
  | complement
  | compare (c : Comparison)
  | isNull
  | notNull
  /-- Whether the operand is true, or is false; or that it is not. -/
  | isTruth (wanted negated : Bool)
  | between (negated : Bool)
  /-- The first operand is looked for among the others. -/
  | isIn (negated : Bool)
  /-- The first operand is matched against the second, with an escape if there
  is a third. -/
  | matches (style : PatternStyle) (negated : Bool)
  | arithmetic (a : Arithmetic)
  | concat
  /-- A base if there is one, then pairs, then an alternative if there is one. -/
  | case (based alternative : Bool)
  | cast (target : Affinity)
  | collate (name : String)
  /-- A call, by the name as written. -/
  | call (name : String) (distinct : Bool)
  /-- A call of every row: `count(*)`. -/
  | callRows (name : String)
  /-- A summary of the operand over the rows of a group, and the name as written.
  Without operands it counts the rows. -/
  | aggregate (a : Aggregate) (distinct : Bool) (name : String)
  /-- A call of a function that is known. -/
  | function (f : Function)
  /-- A truth value that was known on reading. -/
  | fixed (b : Bool)
  /-- Several values in brackets. -/
  | row
  /-- An integer that fits no word, as written. -/
  | largeNumeral (source : String)
  /-- A part of the language that is left out. -/
  | omitted (what : String)
deriving DecidableEq, Repr

/-- An expression over names of a type. -/
inductive Expression (ν : Type) where
  | literal (v : Value)
  | parameter (number : Nat)
  | name (n : ν)
  | apply (op : Operation) (operands : List (Expression ν))
deriving Repr

/-- The operands of a pattern test in the other order, text first or pattern first. An
escape stays where it is. -/
def patternSwapped {α : Type} : List α → List α
  | x :: y :: escape => y :: x :: escape
  | xs => xs

mutual

/-- How deep operations are nested in an expression. -/
def Expression.depth {ν : Type} : Expression ν → Nat
  | .literal _ => 1
  | .parameter _ => 1
  | .name _ => 1
  | .apply _ xs => 1 + Expression.depthOfAll xs

/-- How deep the deepest of several expressions is. -/
def Expression.depthOfAll {ν : Type} : List (Expression ν) → Nat
  | [] => 0
  | x :: xs => max x.depth (Expression.depthOfAll xs)

end

/-- How a name was quoted, if it was. Only a name in double quotes may turn out
to be a text. -/
inductive Quoting where
  | plain
  | double
  | other
deriving DecidableEq, Repr

/-- A place in a row. -/
inductive Place where
  | column (index : Nat)
  | rowid
deriving DecidableEq, Repr

/-- The name of a table, perhaps with the name of its schema. -/
structure TableName where
  schema : Option String
  name : String
deriving DecidableEq, Repr

/-- The table as written. -/
def TableName.text (t : TableName) : String :=
  match t.schema with
  | some schema => schema ++ "." ++ t.name
  | none => t.name

/-- The name of a column, perhaps with the name of its table. -/
structure ColumnName where
  table : Option TableName
  column : String
  quoting : Quoting := .plain
deriving DecidableEq, Repr

/-- The column as written. -/
def ColumnName.text (c : ColumnName) : String :=
  match c.table with
  | some t => t.text ++ "." ++ c.column
  | none => c.column

end SqlChain.Sqlite
