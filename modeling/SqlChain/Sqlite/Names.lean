import SqlChain.Sqlite.Command
import SqlChain.Sqlite.Evaluate
import SqlChain.Sqlite.Reader

/-!
# Looking up names

A name is a column of the table, or else its row id, or else the name that the
statement gives to a result, or else a text in double quotes, or else a truth
value. A call names a function, which takes a certain number of operands. A
column that is not there ends the search, or the part of it within a call. A
fault of a call waits, and the search goes on over names and calls; a later
fault takes its place, and anything else ends the search.
-/

namespace SqlChain.Sqlite

/-- The names that an expression can use. -/
structure Names where
  table : Option Table := none
  /-- The name that the statement gives to the table. -/
  called : Option String := none
  /-- The results that have a name. -/
  results : List (String × Term) := []
  /-- Whether summaries may be called. -/
  summaries : Bool := false
  /-- Whether the table may be named with its schema. -/
  schemas : Bool := true

/-- Looking up: it fails at once, or notes a fault and goes on. -/
abbrev Lookup (α : Type) := StateT (Option EngineError) (Except EngineError) α

/-- Note a fault. -/
def note (e : EngineError) : Lookup Unit := set (some e)

/-- Come to what is no name and no call: a noted fault ends the search. -/
def settle : Lookup Unit := do
  if let some e ← get then throw e

/-- Look up the operands of a call. A fault among them is noted. -/
def withinCall (operands : Lookup (List Term)) : Lookup (List Term) :=
  tryCatch operands fun e => do
    note e
    return []

/-! ## Summaries in expressions -/

mutual

/-- The last summary of an expression, by the name as written. -/
def summaryIn? {ν : Type} : Expression ν → Option String
  | .apply (.aggregate _ _ name) _ => some name
  | .apply _ xs => summaryInAny? xs
  | _ => none

/-- The last summary of several expressions. -/
def summaryInAny? {ν : Type} : List (Expression ν) → Option String
  | [] => none
  | x :: xs => (summaryInAny? xs).or (summaryIn? x)

end

/-! ## Names -/

namespace Names

/-- Whether the table goes by a name in the statement. -/
def tableIs (names : Names) (t : Table) (name : TableName) : Bool :=
  match names.called with
  | some called => name.schema.all (sameName · t.schema) && sameName name.name called
  | none => (name.schema.isNone || names.schemas) && t.goesBy name

/-- The place of a column, if the table has it. -/
def place? (names : Names) (c : ColumnName) : Option Place :=
  match names.table with
  | none => none
  | some t =>
      if c.table.all (names.tableIs t) then
        match t.columnIndex? c.column with
        | some i => some (.column i)
        | none => if Table.isRowidName c.column then some .rowid else none
      else none

/-- The truth value that a word is. -/
def truthWord? (c : ColumnName) : Option Bool :=
  if c.table.isSome ∨ c.quoting ≠ .plain then none
  else match upperWord c.column with
    | "TRUE" => some true
    | "FALSE" => some false
    | _ => none

/-- The result that a name stands for. -/
def result? (names : Names) (c : ColumnName) : Option (String × Term) :=
  if c.table.isSome then none else names.results.find? fun r => sameName r.1 c.column

/-- Whether a name is a truth value, and nothing else first. -/
def isTruthWord? (names : Names) (c : ColumnName) : Option Bool :=
  match names.place? c, names.result? c with
  | none, none => truthWord? c
  | _, _ => none

/-- The truth value that an expression is, under whatever collation. -/
def truthOn? (names : Names) : Written → Option Bool
  | .name c => names.isTruthWord? c
  | .apply (.fixed b) _ => some b
  | .apply (.collate _) [x] => names.truthOn? x
  | _ => none

/-- Whether an expression is a name on its own, under whatever collation. -/
def isBareName : Written → Bool
  | .name c => c.table.isNone
  | .apply (.collate _) [x] => isBareName x
  | _ => false

/-- What a name stands for. -/
def lookup (names : Names) (c : ColumnName) : Lookup Term :=
  match names.place? c, names.result? c with
  | some p, _ => pure (.name p)
  | none, some (called, x) =>
      if !names.summaries && (summaryIn? x).isSome then throw (.misusedAlias called) else pure x
  | none, none =>
      if c.table.isNone ∧ c.quoting = .double then pure (.literal (.text c.column))
      else match truthWord? c with
        | some b => pure (.literal (.ofBool b))
        | none => throw (.noSuchColumn c.text)

end Names

/-! ## Functions -/

/-- A function of a name and a number of operands. -/
inductive Callable where
  | operation (op : Operation)
  | summary (a : Aggregate)
  /-- The name is there, but not for so many operands. -/
  | wrongCount
  /-- There is such a function, and it is left out. -/
  | omitted
  | unknown

/-- The names of functions that are left out. -/
def omittedFunctions : List String :=
  ["ACOS", "ACOSH", "ASIN", "ASINH", "ATAN", "ATAN2", "ATANH", "CEIL", "CEILING", "CHANGES",
    "CHAR", "CONCAT", "CONCAT_WS", "COS", "COSH", "CUME_DIST", "DATE", "DATETIME", "DEGREES",
    "DENSE_RANK", "EXP", "FIRST_VALUE", "FLOOR", "FORMAT", "GROUP_CONCAT", "INSTR", "JSON",
    "JSON_ARRAY", "JSON_ARRAY_LENGTH", "JSON_ERROR_POSITION", "JSON_EXTRACT", "JSON_GROUP_ARRAY",
    "JSON_GROUP_OBJECT", "JSON_INSERT", "JSON_OBJECT", "JSON_PATCH", "JSON_PRETTY", "JSON_QUOTE",
    "JSON_REMOVE", "JSON_REPLACE", "JSON_SET", "JSON_TYPE", "JSON_VALID", "JSONB", "JULIANDAY",
    "LAG", "LAST_INSERT_ROWID", "LAST_VALUE", "LEAD", "LIKELIHOOD", "LIKELY", "LN", "LOG",
    "LOG10", "LOG2", "LTRIM", "MOD", "NTH_VALUE", "NTILE", "OCTET_LENGTH", "PERCENT_RANK", "PI",
    "POW", "POWER", "PRINTF", "QUOTE", "RADIANS", "RANDOM", "RANDOMBLOB", "RANK", "REPLACE",
    "ROUND", "ROW_NUMBER", "RTRIM", "SIGN", "SIN", "SINH", "SOUNDEX", "SQLITE_COMPILEOPTION_GET",
    "SQLITE_COMPILEOPTION_USED", "SQLITE_SOURCE_ID", "SQLITE_VERSION", "SQRT", "STRFTIME",
    "STRING_AGG", "SUBSTR", "SUBSTRING", "TAN", "TANH", "TIME", "TIMEDIFF", "TOTAL_CHANGES",
    "TRIM", "TRUNC", "UNHEX", "UNICODE", "UNIXEPOCH", "UNLIKELY", "ZEROBLOB"]

/-- A function of values, for numbers of operands between two bounds. -/
def ofArity (f : Function) (least most n : Nat) : Callable :=
  if least ≤ n ∧ n ≤ most then .operation (.function f) else .wrongCount

/-- A summary of one operand. -/
def ofSummary (a : Aggregate) (n : Nat) : Callable :=
  if n = 1 then .summary a else .wrongCount

/-- The function of a name and a number of operands. -/
def Callable.ofName (name : String) (n : Nat) : Callable :=
  match upperWord name with
  | "ABS" => ofArity .abs 1 1 n
  | "COALESCE" => ofArity .coalesce 2 Reader.maxOperands n
  | "IFNULL" => ofArity .coalesce 2 2 n
  | "IIF" => if n = 3 then .operation (.case false true) else .wrongCount
  | "HEX" => ofArity .hex 1 1 n
  | "LENGTH" => ofArity .length 1 1 n
  | "LOWER" => ofArity .lower 1 1 n
  | "UPPER" => ofArity .upper 1 1 n
  | "NULLIF" => ofArity .nullif 2 2 n
  | "TYPEOF" => ofArity .typeof 1 1 n
  | "MATCH" => if n = 2 then .operation (.call name false) else .wrongCount
  | "LIKE" => if n = 2 ∨ n = 3 then .operation (.matches .like false) else .wrongCount
  | "GLOB" => if n = 2 then .operation (.matches .glob false) else .wrongCount
  | "COUNT" => if n ≤ 1 then .summary .count else .wrongCount
  | "SUM" => ofSummary .sum n
  | "TOTAL" => ofSummary .total n
  | "AVG" => ofSummary .avg n
  | "MIN" => if n = 1 then .summary .min else ofArity .least 2 Reader.maxOperands n
  | "MAX" => if n = 1 then .summary .max else ofArity .greatest 2 Reader.maxOperands n
  | upper => if upper ∈ omittedFunctions then .omitted else .unknown

/-! ## Expressions -/

mutual

/-- Look up the names of an expression. -/
def Names.resolve (names : Names) : Written → Lookup Term
  | .literal v => do
      settle
      return .literal v
  | .parameter n => do
      settle
      return .parameter n
  | .name c => names.lookup c
  | .apply (.call name distinct) xs => do
      match Callable.ofName name xs.length with
      | .operation op =>
          let xs ← withinCall (names.resolveAll xs)
          return .apply op (if op matches .matches _ _ then patternSwapped xs else xs)
      | .summary a =>
          if names.summaries then
            return .apply (.aggregate a distinct name)
              (← withinCall (Names.resolveAll { names with summaries := false } xs))
          else
            note (.misusedAggregateFunction name)
            return .apply (.aggregate a distinct name) (← withinCall (names.resolveAll xs))
      | .wrongCount =>
          note (.argumentCount name)
          return .apply .row (← withinCall (names.resolveAll xs))
      | .omitted => throw (.unsupported ("the function " ++ name))
      | .unknown =>
          note (.noSuchFunction name)
          return .apply .row (← withinCall (names.resolveAll xs))
  | .apply (.callRows name) _ => do
      match Callable.ofName name 0 with
      | .summary a =>
          unless names.summaries do note (.misusedAggregateFunction name)
          return .apply (.aggregate a false name) []
      | .unknown =>
          note (.noSuchFunction name)
          return .apply .row []
      | .omitted => throw (.unsupported ("the function " ++ name))
      | _ =>
          note (.argumentCount name)
          return .apply .row []
  | .apply (.compare .is) xs => do names.resolveIs false xs
  | .apply (.compare .isNot) xs => do names.resolveIs true xs
  | .apply (.matches style negated) (text :: pattern :: escape) => do
      -- the pattern is looked up first, as in a call
      let xs ← withinCall do
        let pattern ← names.resolve pattern
        let text ← names.resolve text
        return text :: pattern :: (← names.resolveAll escape)
      return .apply (.matches style negated) xs
  | .apply .isNull xs => do return .apply .isNull (← names.resolveAll xs)
  | .apply .notNull xs => do return .apply .notNull (← names.resolveAll xs)
  | .apply (.omitted what) _ => throw (.unsupported what)
  | .apply op xs => do
      settle
      return .apply op (← names.resolveAll xs)

/-- Look up the names of `IS` with its operands. With a truth value on the right it
asks for the truth of the left; a bare name on the right is looked up first. -/
def Names.resolveIs (names : Names) (negated : Bool) : List Written → Lookup Term
  | [x, y] => do
      match names.truthOn? y with
      | some b => return .apply (.isTruth b negated) [← names.resolve x]
      | none =>
          let op : Operation := .compare (if negated then .isNot else .is)
          if Names.isBareName y then
            let y ← names.resolve y
            settle
            return .apply op [← names.resolve x, y]
          settle
          return .apply op [← names.resolve x, ← names.resolve y]
  | xs => do
      return .apply (.compare (if negated then .isNot else .is)) (← names.resolveAll xs)

/-- Look up the names of several expressions. -/
def Names.resolveAll (names : Names) : List Written → Lookup (List Term)
  | [] => pure []
  | x :: xs => do
      let x ← names.resolve x
      return x :: (← names.resolveAll xs)

end

/-- Look up the names of an expression, and tell the fault that was noted. -/
def Names.term (names : Names) (x : Written) : Except EngineError Term := do
  let (x, fault) ← (names.resolve x).run none
  match fault with
  | some e => throw e
  | none => return x

/-! ## What shows only in the whole -/

/-- Whether an operation compares its operands. -/
def Operation.compares : Operation → Bool
  | .compare _ => true
  | .between _ => true
  | .isIn _ => true
  | .case based _ => based
  | .aggregate .min _ _ => true
  | .aggregate .max _ _ => true
  | .aggregate _ distinct _ => distinct
  | .function .greatest => true
  | .function .least => true
  | .function .nullif => true
  | _ => false

/-- The fault of comparing expressions by a collation that is not there. -/
def collationFault? {ν : Type} (xs : List (Expression ν)) : Option EngineError :=
  match collationOfAll xs with
  | some name => if (Collation.ofName? name).isNone then some (.noSuchCollation name) else none
  | none => none

/-- The fault of an operation on expressions, whatever is wrong within these. -/
def Operation.fault? {ν : Type} (op : Operation) (xs : List (Expression ν)) :
    Option EngineError :=
  match op with
  | .row => some .rowMisused
  | .largeNumeral source =>
      if isHexNumeral source.toList then some (.hexTooBig source) else none
  | .aggregate _ true _ =>
      (collationFault? xs).or (if xs.length = 1 then none else some .distinctArguments)
  | op => if op.compares then collationFault? xs else none

mutual

/-- The fault of an expression whose names are all there. -/
def wholeFault? : Term → Option EngineError
  | .apply op xs => (op.fault? xs).or (wholeFaultOfAny? xs)
  | _ => none

/-- The first fault of several expressions. -/
def wholeFaultOfAny? : List Term → Option EngineError
  | [] => none
  | x :: xs => (wholeFault? x).or (wholeFaultOfAny? xs)

end

/-- Refuse the first fault. -/
def refuse (fault : Option EngineError) : Except EngineError Unit :=
  match fault with
  | some e => .error e
  | none => .ok ()

end SqlChain.Sqlite
