import SqlChain.Descriptor
import SqlChain.Shape.Struct

/-!
# Options

What a root query is set up with: the client that runs its statements, a table
that it starts from, and the clause style. A table and a style can be read from
configuration; a client cannot.
-/

namespace SqlChain

/-- The style as configuration writes it. -/
def ClauseStyle.name : ClauseStyle → String
  | .bound => "bound"
  | .inline => "inline"

/-- The styles in the order of their names below. -/
def ClauseStyle.names : List String := ["bound", "inline"]

/-- The style at a place among the names. -/
def ClauseStyle.ofIndex (i : Fin names.length) : ClauseStyle :=
  if i.val = 0 then .bound else .inline

/-- Read a style by name. -/
def ClauseStyle.read (j : Json) : Except Mismatch ClauseStyle :=
  (Shape.readChoice names j).map ofIndex

/-- Options, with clients of type `κ`. -/
structure Options (κ : Type) where
  database : Option κ := none
  table : Option String := none
  clauseStyle : ClauseStyle := .bound
deriving Repr

namespace Options

/-- The options that configuration can hold. Whatever it leaves out is unset,
and the style bound. -/
def struct : Struct where
  name := "Options"
  fields := [⟨"table", .optional .text⟩, ⟨"clause_style", .choice ClauseStyle.names⟩]
  defaults := some (none, (⟨0, by decide⟩, ()))

/-- Read options from configuration. -/
def read {κ : Type} (j : Json) : Except Mismatch (Options κ) :=
  (struct.read j).map fun (table, style, ()) => { table := table, clauseStyle := .ofIndex style }

end Options

end SqlChain
