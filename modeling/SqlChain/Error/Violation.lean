/-!
# What is wrong with a query

The violations that keep a query from being sent, with their words.
-/

namespace SqlChain

/-- The places of a statement where text can be written out unquoted. -/
inductive InlinePlace where
  | groupBy
  | having
  | orderBy
  | tableInfo
deriving DecidableEq, Repr

/-- The words of the place, as in the statement. -/
def InlinePlace.text : InlinePlace → String
  | .groupBy => "GROUP BY"
  | .having => "HAVING"
  | .orderBy => "ORDER BY"
  | .tableInfo => "PRAGMA table_info"

/-- A reason not to send a query. -/
inductive Violation where
  | selectAndCount (columns expression : String)
  | updateWithoutSet
  | unguardedUpdate
  | unguardedDelete
  | placeholderMismatch (placeholders values : Nat)
  | emptyQuery
  | missingTable
  | emptyInsert
  | unsafeClause (place : InlinePlace) (text : String)
deriving DecidableEq, Repr

/-- The words for a violation. -/
def Violation.message : Violation → String
  | .selectAndCount columns expression =>
      "can't use both select(\"" ++ columns ++ "\") and count(\"" ++ expression ++ "\")"
  | .updateWithoutSet => "can't do update without set"
  | .unguardedUpdate =>
      "update() without where() is unsafe, append force() if you really want to do this"
  | .unguardedDelete =>
      "deleteFrom() without where() is unsafe, append force() if you really want to do this"
  | .placeholderMismatch placeholders values =>
      "?-parameters vs actual values mismatch: " ++ toString placeholders ++ " != " ++
        toString values
  | .emptyQuery =>
      "query has no statement, call select(), from(), insert_into(), update() or delete_from()"
  | .missingTable => "SELECT requires a table, call from()"
  | .emptyInsert => "INSERT requires at least one column"
  | .unsafeClause place text =>
      place.text ++ " value '" ++ text ++ "' cannot be inlined safely"

end SqlChain
