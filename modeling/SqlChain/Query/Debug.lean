import SqlChain.Query.Basic

/-!
# Queries in messages

A query as messages show it: every field by name, absent ones too. The client
is shown to be there and nothing more.
-/

namespace SqlChain

namespace Debug

/-- A value that may be absent. -/
def optional {α : Type} (render : α → String) : Option α → String
  | some x => "Some(" ++ render x ++ ")"
  | none => "None"

/-- A list between brackets. -/
def list {α : Type} (render : α → String) (xs : List α) : String :=
  "[" ++ Text.listing (xs.map render) ++ "]"

/-- Named fields between braces. -/
def struct (name : String) (fields : List (String × String)) : String :=
  name ++ " \x7b " ++ Text.listing (fields.map fun f => f.1 ++ ": " ++ f.2) ++ " \x7d"

/-- The name of a kind of statement. -/
def mode : Mode → String
  | .select => "Select"
  | .insert => "InsertInto"
  | .update => "Update"
  | .delete => "DeleteFrom"

/-- The name of a kind of join. -/
def joinKind : JoinKind → String
  | .left => "Left"
  | .right => "Right"
  | .inner => "Inner"
  | .outer => "Outer"

/-- The name of a style. -/
def clauseStyle : ClauseStyle → String
  | .bound => "Bound"
  | .inline => "Inline"

/-- A join. -/
def join (j : JoinKind × String) : String :=
  struct "Join" [("kind", joinKind j.1), ("table", Text.quoted j.2)]

end Debug

/-- The descriptor as messages show it. -/
def Descriptor.debug (d : Descriptor) : String :=
  let text := Debug.optional Text.quoted
  let count := Debug.optional fun n : UInt64 => toString n.toNat
  let values := Debug.list Value.debug
  Debug.struct "QueryDescriptor"
    [("mode", Debug.optional Debug.mode d.mode),
      ("from_table", text d.fromTable),
      ("insert_table", text d.insertTable),
      ("update_table", text d.updateTable),
      ("delete_table", text d.deleteTable),
      ("select_columns", text d.selectColumns),
      ("count", text d.count),
      ("joins", Debug.list Debug.join d.joins),
      ("on_clause", text d.onClause),
      ("where_clause", text d.whereClause),
      ("where_parameters", values d.whereParameters),
      ("group_by", text d.groupBy),
      ("having", text d.having),
      ("order_by", Debug.list Text.quoted d.orderBy),
      ("limit", count d.limit),
      ("offset", count d.offset),
      ("set_clause", text d.setClause),
      ("set_parameters", values d.setParameters),
      ("insert_columns", Debug.list Text.quoted d.insertColumns),
      ("insert_parameters", values d.insertParameters),
      ("force", if d.force then "true" else "false"),
      ("clause_style", Debug.clauseStyle d.clauseStyle)]

/-- The options as messages show them. -/
def Options.debug {κ : Type} (o : Options κ) : String :=
  Debug.struct "Options"
    [("database", Debug.optional (fun _ => Text.quoted "<database>") o.database),
      ("table", Debug.optional Text.quoted o.table),
      ("clause_style", Debug.clauseStyle o.clauseStyle)]

/-- The query as messages show it. -/
def Query.debug {κ : Type} (q : Query κ) : String :=
  Debug.struct "Query" [("descriptor", q.descriptor.debug), ("options", q.options.debug)]

end SqlChain
