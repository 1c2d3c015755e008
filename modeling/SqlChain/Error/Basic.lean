import SqlChain.Error.Database
import SqlChain.Error.Violation
import SqlChain.Serial
import SqlChain.Shape.Mismatch

/-!
# Errors

Everything that building or running a query can end in, one constructor a
cause. A client may also raise any of them with words of its own.
-/

namespace SqlChain

/-- How a condition is joined to the ones before it. -/
inductive Connective where
  | and
  | or
deriving DecidableEq, Repr

/-- The connective in a predicate. -/
def Connective.text : Connective → String
  | .and => "AND"
  | .or => "OR"

/-- The connective as a call. -/
def Connective.call : Connective → String
  | .and => "and()"
  | .or => "or()"

/-- Calls that make no sense where they stand. -/
inductive Misuse where
  | connectiveBeforeWhere (connective : Connective)
  | other (text : String)
deriving DecidableEq, Repr

/-- The words for a misuse. -/
def Misuse.message : Misuse → String
  | .connectiveBeforeWhere c => c.call ++ " must come after where()"
  | .other text => text

/-- Setups that cannot work. -/
inductive Misconfiguration where
  | noDatabase
  | defaultAlreadySet
  | other (text : String)
deriving DecidableEq, Repr

/-- The words for a faulty setup. -/
def Misconfiguration.message : Misconfiguration → String
  | .noDatabase => "no database configured, pass Options::database or call set_default_database"
  | .defaultAlreadySet => "default database is already configured"
  | .other text => text

/-- Data that cannot be turned into rows, or rows that cannot be turned into data. -/
inductive SerializationError where
  | mismatch (m : Mismatch)
  | key (fault : KeyFault)
  | notRecord (got : Json)
  | other (text : String)
deriving Repr

/-- The words for a failed conversion. -/
def SerializationError.message : SerializationError → String
  | .mismatch m => m.message
  | .key fault => fault.message
  | .notRecord got => "expected a struct or map, got " ++ got.print
  | .other text => text

/-- An error. -/
inductive Error where
  | usage (m : Misuse)
  | invalid (v : Violation)
  | configuration (m : Misconfiguration)
  | database (e : DatabaseError)
  | client (text : String)
  | serialization (e : SerializationError)
deriving Repr

namespace Error

/-- The words for an error, its kind first. -/
def message : Error → String
  | .usage m => "Usage error: " ++ m.message
  | .invalid v => "Invalid query: " ++ v.message
  | .configuration m => "Configuration error: " ++ m.message
  | .database e => "Database error: " ++ e.message
  | .client text => "Client error: " ++ text
  | .serialization e => "Serialization error: " ++ e.message

/-- The words of the error underneath, where there is one. -/
def source? : Error → Option String
  | .usage _ => none
  | .configuration _ => none
  | .invalid v => some v.message
  | .database e => some e.message
  | .client text => some text
  | .serialization e => some e.message

end Error

end SqlChain
