import SqlChain.Sqlite.Command
import SqlChain.Sqlite.Parameters
import SqlChain.Sqlite.Reader.Expression

/-!
# Reading statements

A text holds statements divided by semicolons, each read on its own once those
before it have been carried out. Words that are not reserved can be names, so
`OFFSET` after a table is another name for the table.
-/

namespace SqlChain.Sqlite

namespace Reader

/-! ## Results -/

/-- A column of the result. -/
def selected : Reader Selected := do
  let start := (← get).rest
  if ← acceptSymbol "*" then return .star
  if let some table := nameOf? (← peek) then
    if (start[1]?.any (isSymbolToken ".")) && start[2]?.any (isSymbolToken "*") then
      skip
      skip
      skip
      return .starOf table
  let x ← expression
  let text := sourceBetween start (← get).rest
  return .expression x (← otherName) text

/-- What `RETURNING` asks for. -/
def returning : Reader (List Selected) := do
  if ← acceptKeyword "RETURNING" then return ← commaList selected
  return []

/-- A predicate after `WHERE`, if there is one. -/
def whereClause : Reader (Option Term) := do
  if ← acceptKeyword "WHERE" then return some (← expression)
  return none

/-! ## Tables -/

/-- A table, perhaps with its schema. -/
def tableName : Reader TableName := do
  let first ← name
  if ← acceptSymbol "." then return ⟨some first, ← name⟩
  return ⟨none, first⟩

/-- The index that has to be used, if one is named. -/
def indexClause : Reader (Option String) := do
  if ← acceptKeyword "INDEXED" then
    expectKeyword "BY"
    return some (← name)
  if ← acceptKeyword "NOT" then
    expectKeyword "INDEXED"
    return none
  return none

/-- The condition of a join. It makes no sense for the first table. -/
def joinCondition (joined : Bool) : Reader Unit := do
  if ← acceptKeyword "ON" then
    let _ ← expression
    unless joined do blame (.joinRequired "ON")
  else if ← acceptKeyword "USING" then
    expectSymbol "("
    let _ ← commaList name
    expectSymbol ")"
    unless joined do blame (.joinRequired "USING")

/-- A table to select from. -/
def tableTerm (joined : Bool) : Reader TableTerm := do
  if isSymbolToken "(" (← peek) then leaveOut "a table in brackets"
  let table ← tableName
  if isSymbolToken "(" (← peek) then leaveOut "a call as a table"
  let called ← otherName
  let index ← indexClause
  joinCondition joined
  return ⟨table, called, index⟩

/-- The kinds that a word before `JOIN` stands for: inner, outer, left, right. -/
def joinKinds (word : String) : Option (Bool × Bool × Bool × Bool) :=
  match upperWord word with
  | "NATURAL" => some (false, false, false, false)
  | "LEFT" => some (false, true, true, false)
  | "RIGHT" => some (false, true, false, true)
  | "FULL" => some (false, true, true, true)
  | "OUTER" => some (false, true, false, false)
  | "INNER" => some (true, false, false, false)
  | "CROSS" => some (true, false, false, false)
  | _ => none

/-- Whether words name a kind of join. -/
def isJoin (words : List String) : Bool :=
  match words.mapM joinKinds with
  | none => false
  | some kinds =>
      let inner := kinds.any (·.1)
      let outer := kinds.any (·.2.1)
      let sided := kinds.any fun k => k.2.2.1 || k.2.2.2
      !(inner && outer) && (!outer || sided)

/-- The words up to `JOIN`, the first of which has been taken. -/
def joinAfter (first : String) : Reader Unit := do
  let mut words := [first]
  if !(← acceptKeyword "JOIN") then
    words := words ++ [← name]
    if !(← acceptKeyword "JOIN") then
      words := words ++ [← name]
      expectKeyword "JOIN"
  unless isJoin words do blame (.unknownJoin (String.intercalate " " words))

/-- What joins another table, if something does. -/
def joinOperator : Reader Bool := do
  if ← acceptSymbol "," then return true
  if ← acceptKeyword "JOIN" then return true
  let t ← peek
  if t.kind = .word ∧ upperWord t.source ∈ joinWords then
    skip
    joinAfter t.source
    return true
  return false

/-- The tables after the first. -/
def joinedTables : Nat → Reader (List TableTerm)
  | 0 => unexpected
  | fuel + 1 => do
      if ← joinOperator then
        let table ← tableTerm true
        return table :: (← joinedTables fuel)
      return []

/-- The tables after `FROM`, if it is there. -/
def tables : Reader (List TableTerm) := do
  if ← acceptKeyword "FROM" then
    let table ← tableTerm false
    return table :: (← joinedTables ((← get).rest.length + 1))
  return []

/-- The table that a statement changes. -/
def changedTable : Reader TableTerm := do
  let table ← tableName
  if ← acceptKeyword "AS" then return ⟨table, some (← name), none⟩
  return ⟨table, none, none⟩

/-! ## Queries -/

/-- A term to sort by. -/
def sortTerm : Reader (SortTerm ColumnName) := do
  let key ← expression
  let descending ← acceptKeyword "DESC"
  unless descending do let _ ← acceptKeyword "ASC"
  if ← acceptKeyword "NULLS" then
    if ← acceptKeyword "FIRST" then return ⟨key, descending, true⟩
    expectKeyword "LAST"
    return ⟨key, descending, false⟩
  return ⟨key, descending, !descending⟩

/-- Items after two keywords, if the keywords are there. -/
def itemsBy {α : Type} (word : String) (item : Reader α) : Reader (List α) := do
  if ← acceptKeyword word then
    expectKeyword "BY"
    return ← commaList item
  return []

/-- The limit of a query and its offset. The offset comes first if a comma
divides them. -/
def window : Reader (Option Term × Option Term) := do
  if ← acceptKeyword "LIMIT" then
    let first ← expression
    if ← acceptKeyword "OFFSET" then return (some first, some (← expression))
    if ← acceptSymbol "," then return (some (← expression), some first)
    return (some first, none)
  return (none, none)

/-- Whether a query is joined to another here. -/
def compounds (t : Token) : Bool :=
  ["UNION", "EXCEPT", "INTERSECT"].any fun word => isKeyword word t

/-- The rest of a SELECT. -/
def selectAfter : Reader Command := do
  let distinct ← acceptKeyword "DISTINCT"
  unless distinct do let _ ← acceptKeyword "ALL"
  let columns ← commaList selected
  let tables ← tables
  let predicate ← whereClause
  let groups ← itemsBy "GROUP" expression
  let having ← if ← acceptKeyword "HAVING" then pure (some (← expression)) else pure none
  if compounds (← peek) then leaveOut "a compound query"
  let order ← itemsBy "ORDER" sortTerm
  let (limit, offset) ← window
  return .select ⟨distinct, columns, tables, predicate, groups, having, order, limit, offset⟩

/-! ## Changes -/

/-- What to do about a conflict, before the table. -/
def conflictClause : Reader Unit := do
  if ← acceptKeyword "OR" then
    unless ← acceptKeyword "ABORT" do
      if ["ROLLBACK", "FAIL", "IGNORE", "REPLACE"].any (isKeyword · (← peek)) then
        leaveOut "a conflict clause"
      unexpected

/-- Expressions in brackets. -/
def bracketed : Reader (List Term) := do
  expectSymbol "("
  let xs ← commaList expression
  expectSymbol ")"
  return xs

/-- A row that has to be as wide as the first one. -/
def rowOfWidth (width : Nat) : Reader (List Term) := do
  let row ← bracketed
  if row.length ≠ width then blame .unevenRows
  return row

/-- The rows after `VALUES`. -/
def rows : Reader (List (List Term)) := do
  let first ← bracketed
  if ← acceptSymbol "," then return first :: (← commaList (rowOfWidth first.length))
  return [first]

/-- The rest of an INSERT. -/
def insertAfter : Reader Command := do
  conflictClause
  expectKeyword "INTO"
  let table ← changedTable
  let columns ←
    if ← acceptSymbol "(" then
      let columns ← commaList name
      expectSymbol ")"
      pure (some columns)
    else pure none
  if ← acceptKeyword "DEFAULT" then
    expectKeyword "VALUES"
    return .insert table columns .defaults (← returning)
  if ["SELECT", "WITH"].any (isKeyword · (← peek)) then leaveOut "an insert of a query"
  expectKeyword "VALUES"
  let rows ← rows
  if compounds (← peek) then leaveOut "a compound query"
  if isKeyword "ON" (← peek) then
    skip
    expectKeyword "CONFLICT"
    leaveOut "a conflict clause"
  return .insert table columns (.rows rows) (← returning)

/-- An assignment of an UPDATE. -/
def assignment : Reader (String × Term) := do
  if isSymbolToken "(" (← peek) then leaveOut "an assignment of a row"
  let column ← name
  expect fun t => isSymbolToken "=" t || isSymbolToken "==" t
  return (column, ← expression)

/-- The rest of an UPDATE. -/
def updateAfter : Reader Command := do
  conflictClause
  let table ← changedTable
  let index ← indexClause
  expectKeyword "SET"
  let assignments ← commaList assignment
  if isKeyword "FROM" (← peek) then leaveOut "an update from a table"
  let predicate ← whereClause
  return .update { table with index := index } assignments predicate (← returning)

/-- The rest of a DELETE. -/
def deleteAfter : Reader Command := do
  expectKeyword "FROM"
  let table ← changedTable
  let index ← indexClause
  let predicate ← whereClause
  return .delete { table with index := index } predicate (← returning)

/-! ## Statements -/

/-- What a PRAGMA is given: a number, a name or one of three reserved words. -/
def pragmaArgument : Reader String := do
  let t ← peek
  if ["ON", "DELETE", "DEFAULT"].any (isKeyword · t) then
    skip
    return t.source
  match nameOf? t with
  | some n =>
      skip
      return n
  | none => signedNumber

/-- The rest of a PRAGMA. -/
def pragmaAfter : Reader Command := do
  let table ← tableName
  if ← acceptSymbol "(" then
    let argument ← pragmaArgument
    expectSymbol ")"
    return .pragma table.schema table.name (some argument)
  if ← accept fun t => isSymbolToken "=" t || isSymbolToken "==" t then
    return .pragma table.schema table.name (some (← pragmaArgument))
  return .pragma table.schema table.name none

/-- The first words of statements that are left out. -/
def omittedStatements : List String :=
  ["ALTER", "ANALYZE", "ATTACH", "BEGIN", "COMMIT", "CREATE", "DETACH", "DROP", "END", "EXPLAIN",
    "REINDEX", "RELEASE", "REPLACE", "ROLLBACK", "SAVEPOINT", "VACUUM", "VALUES", "WITH"]

/-- A statement without its end. -/
def commandBody : Reader Command := do
  if ← acceptKeyword "SELECT" then return ← selectAfter
  if ← acceptKeyword "INSERT" then return ← insertAfter
  if ← acceptKeyword "UPDATE" then return ← updateAfter
  if ← acceptKeyword "DELETE" then return ← deleteAfter
  if ← acceptKeyword "PRAGMA" then return ← pragmaAfter
  match omittedStatements.find? (isKeyword · (← peek)) with
  | some word => leaveOut word
  | none => unexpected

/-- A statement and its end. -/
def command : Reader Command := do
  let c ← commandBody
  expect fun t => t.kind = .finish || isSymbolToken ";" t
  return c

end Reader

/-- A statement that has been read, and its parameters. -/
structure Prepared where
  command : Command
  parameters : Parameters

/-- Read the tokens of a statement. -/
def prepare (ts : List Token) : Except EngineError Prepared := do
  let (ts, parameters) := Parameters.numbered ts []
  let (command, _) ← Reader.command.run { rest := ts }
  return ⟨command, parameters⟩

/-- Divide tokens into statements, each with the token that ends it. What is
empty is no statement. -/
def statementsFrom : List Token → List Token → List (List Token)
  | _, [] => []
  | before, t :: rest =>
      if t.kind = .finish then if before.isEmpty then [] else [(t :: before).reverse]
      else if Reader.isSymbolToken ";" t then
        if before.isEmpty then statementsFrom [] rest
        else (t :: before).reverse :: statementsFrom [] rest
      else statementsFrom (t :: before) rest

/-- The statements of a text. -/
def statements (sql : String) : List (List Token) :=
  statementsFrom [] (tokens (Text.trim sql))

end SqlChain.Sqlite
