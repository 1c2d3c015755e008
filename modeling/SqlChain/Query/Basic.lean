import SqlChain.Options
import SqlChain.Statement
import SqlChain.Validity

/-!
# Queries

A query is a descriptor together with the options of its root. Queries are
values: a call on one makes another and leaves the first as it was.
-/

namespace SqlChain

/-- A query whose client is of type `κ`. -/
structure Query (κ : Type) where
  descriptor : Descriptor
  options : Options κ
deriving Repr

namespace Query

variable {κ : Type}

/-- A root with options. The table of the options is its first subject. -/
def ofOptions (options : Options κ) : Query κ :=
  ⟨{ fromTable := options.table, clauseStyle := options.clauseStyle }, options⟩

/-- A root without options. -/
def new : Query κ := ofOptions {}

/-- A root for a table known by name, whatever table the options have. -/
def forTable (table : String) (options : Options κ) : Query κ :=
  ofOptions { options with table := some table }

/-- The statement of the query, whether or not it is valid. -/
def compile (q : Query κ) : Statement := q.descriptor.compile

/-- The text of the statement. -/
def sql (q : Query κ) : String := q.compile.sql

/-- The parameters of the statement. -/
def parameters (q : Query κ) : List Value := q.compile.parameters

/-- The first violation, if there is one. -/
def violation? (q : Query κ) : Option Violation := q.descriptor.violation?

end Query

end SqlChain
