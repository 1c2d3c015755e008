import SqlChain.Text.Utf8

/-!
# Faults of a database

What a database engine refuses, and what can go wrong on the way to it. The
engine's faults have a code and a text.
-/

namespace SqlChain

/-- What the engine refuses. -/
inductive EngineError where
  /- faults of the text -/
  | nearToken (token : String)
  | unrecognizedToken (token : String)
  | incompleteInput
  | parameterNumber
  | tooManyParameters
  | tooDeep
  | joinRequired (clause : String)
  | unknownJoin (words : String)
  | unevenRows
  | tooManyOperands (function : String)
  | tooManyColumns
  | hexTooBig (numeral : String)
  /- names that mean nothing -/
  | noSuchTable (name : String)
  | noSuchColumn (name : String)
  | noColumnNamed (table column : String)
  | noSuchFunction (name : String)
  | noSuchIndex (name : String)
  | noSuchCollation (name : String)
  | unknownDatabase (name : String)
  | noSuchVfs (name : String)
  | noSuchMode (kind name : String)
  | modeNotAllowed (kind name : String)
  | foreignHost (name : String)
  /- statements that make no sense -/
  | noTables
  | readOnlyTable (name : String)
  | argumentCount (function : String)
  | unusableFunction (function : String)
  | misusedAggregateFunction (function : String)
  | misusedAggregate (function : String)
  | misusedAlias (name : String)
  | aggregateInGroups
  | distinctArguments
  | havingWithoutGroups
  | rowMisused
  | termOutOfRange (term : Nat) (clause : String) (columns : Nat)
  | valueCount (values columns : Nat)
  | suppliedCount (table : String) (columns values : Nat)
  | returningStar
  /- faults of the values -/
  | notNull (table column : String)
  | notUnique (table column : String) (hidden : Bool)
  | datatypeMismatch
  | longPattern
  | longEscape
  | overflow
  | full
  | cannotOpen
  | unsupported (what : String)
deriving DecidableEq, Repr

namespace EngineError

/-- The code of a fault. A row id that is no column of the table has a code of
its own. -/
def code : EngineError → Nat
  | .notNull _ _ => 1299
  | .notUnique _ _ hidden => if hidden then 2579 else 1555
  | .modeNotAllowed _ _ => 3
  | .noSuchCollation _ => 257
  | .datatypeMismatch => 20
  | .full => 13
  | .cannotOpen => 14
  | _ => 1

/-- A place in a list, in figures. -/
def ordinal (n : Nat) : String :=
  let ending :=
    if n / 10 % 10 = 1 then "th"
    else match n % 10 with
      | 1 => "st"
      | 2 => "nd"
      | 3 => "rd"
      | _ => "th"
  toString n ++ ending

/-- The text of a fault. -/
def text : EngineError → String
  | .nearToken token => "near \"" ++ token ++ "\": syntax error"
  | .unrecognizedToken token => "unrecognized token: \"" ++ token ++ "\""
  | .incompleteInput => "incomplete input"
  | .parameterNumber => "variable number must be between ?1 and ?32766"
  | .tooManyParameters => "too many SQL variables"
  | .tooDeep => "Expression tree is too large (maximum depth 1000)"
  | .joinRequired clause => "a JOIN clause is required before " ++ clause
  | .unknownJoin words => "unknown join type: " ++ words
  | .tooManyOperands function => "too many arguments on function " ++ function
  | .tooManyColumns => "too many columns in result set"
  | .unevenRows => "all VALUES must have the same number of terms"
  | .hexTooBig numeral => "hex literal too big: " ++ numeral
  | .noSuchTable name => "no such table: " ++ name
  | .noSuchColumn name => "no such column: " ++ name
  | .noColumnNamed table column => "table " ++ table ++ " has no column named " ++ column
  | .noSuchFunction name => "no such function: " ++ name
  | .noSuchIndex name => "no such index: " ++ name
  | .noSuchCollation name => "no such collation sequence: " ++ name
  | .unknownDatabase name => "unknown database " ++ name
  | .noSuchVfs name => "no such vfs: " ++ name
  | .noSuchMode kind name => "no such " ++ kind ++ " mode: " ++ name
  | .modeNotAllowed kind name => kind ++ " mode not allowed: " ++ name
  | .foreignHost name => "invalid uri authority: " ++ name
  | .noTables => "no tables specified"
  | .readOnlyTable name => "table " ++ name ++ " may not be modified"
  | .argumentCount function => "wrong number of arguments to function " ++ function ++ "()"
  | .unusableFunction function =>
      "unable to use function " ++ function ++ " in the requested context"
  | .misusedAggregateFunction function => "misuse of aggregate function " ++ function ++ "()"
  | .misusedAggregate function => "misuse of aggregate: " ++ function ++ "()"
  | .misusedAlias name => "misuse of aliased aggregate " ++ name
  | .aggregateInGroups => "aggregate functions are not allowed in the GROUP BY clause"
  | .distinctArguments => "DISTINCT aggregates must have exactly one argument"
  | .havingWithoutGroups => "HAVING clause on a non-aggregate query"
  | .rowMisused => "row value misused"
  | .termOutOfRange term clause columns =>
      ordinal term ++ " " ++ clause ++ " BY term out of range - should be between 1 and " ++
        toString columns
  | .valueCount values columns =>
      toString values ++ " values for " ++ toString columns ++ " columns"
  | .suppliedCount table columns values =>
      "table " ++ table ++ " has " ++ toString columns ++ " columns but " ++ toString values ++
        " values were supplied"
  | .returningStar => "RETURNING may not use \"TABLE.*\" wildcards"
  | .notNull table column => "NOT NULL constraint failed: " ++ table ++ "." ++ column
  | .notUnique table column _ => "UNIQUE constraint failed: " ++ table ++ "." ++ column
  | .datatypeMismatch => "datatype mismatch"
  | .longPattern => "LIKE or GLOB pattern too complex"
  | .longEscape => "ESCAPE expression must be a single character"
  | .overflow => "integer overflow"
  | .full => "database or disk is full"
  | .cannotOpen => "unable to open database file"
  | .unsupported what => what ++ " is not supported"

end EngineError

/-- What can go wrong between a query and its rows. -/
inductive DatabaseError where
  | engine (e : EngineError)
  | rowNotFound
  | protocol (text : String)
  | columnNotFound (name : String)
  | columnIndex (index columns : Nat)
  | poolClosed
  | undecodable (column : Nat) (fault : Text.Utf8Fault)
  | badUrl (text : String)
  | communication (text : String)
deriving DecidableEq, Repr

/-- The words for a fault. -/
def DatabaseError.message : DatabaseError → String
  | .engine e => "error returned from database: (code: " ++ toString e.code ++ ") " ++ e.text
  | .rowNotFound => "no rows returned by a query that expected to return at least one row"
  | .protocol text => "encountered unexpected or invalid data: " ++ text
  | .columnNotFound name => "no column found for name: " ++ name
  | .columnIndex index columns =>
      "column index out of bounds: the len is " ++ toString columns ++ ", but the index is " ++
        toString index
  | .poolClosed => "attempted to acquire a connection on a closed pool"
  | .undecodable column fault =>
      "error occurred while decoding column " ++ toString column ++ ": " ++ fault.message
  | .badUrl text => "error with configuration: " ++ text
  | .communication text => "error communicating with database: " ++ text

end SqlChain
