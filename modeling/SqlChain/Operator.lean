import SqlChain.Text.Blank
import SqlChain.Text.Quoted
import SqlChain.Text.Upper

/-!
# Comparison operators

An operator is the text between a column and its value. The known ones have
names; any other text can be made an operator on purpose. A spelling, on the
other hand, is text that a caller writes in place of an operator: blanks
around it and its case do not matter, and it must name a known operator. So no
spelling brings text of its own into a statement.
-/

namespace SqlChain

/-- An operator, by its text. -/
structure Operator where
  text : String
deriving DecidableEq, Repr

namespace Operator

/-- The operators that take no value. -/
def unaryTexts : List String := ["IS NULL", "IS NOT NULL", "NOT", "EXISTS"]

/-- Whether the operator takes no value. -/
def isUnary (o : Operator) : Bool := o.text ∈ unaryTexts

/-- The names of the known operators and their texts. -/
def named : List (String × String) :=
  [("EQ", "="), ("NEQ", "!="), ("LTGT", "<>"), ("GT", ">"), ("LT", "<"), ("GTE", ">="),
    ("LTE", "<="), ("LIKE", "LIKE"), ("NOT_LIKE", "NOT LIKE"), ("GLOB", "GLOB"),
    ("NOT_GLOB", "NOT GLOB"), ("IN", "IN"), ("NOT_IN", "NOT IN"), ("IS", "IS"),
    ("IS_NOT", "IS NOT"), ("BETWEEN", "BETWEEN"), ("NOT_BETWEEN", "NOT BETWEEN"),
    ("IS_NULL", "IS NULL"), ("IS_NOT_NULL", "IS NOT NULL"), ("NOT", "NOT"),
    ("EXISTS", "EXISTS")]

/-- The known operator of a name. -/
def ofName? (name : String) : Option Operator := (named.lookup name).map Operator.mk

/-- The texts that a spelling may come to, each with its operator's text. Each
known operator is spelled by its own text, and equality also by two signs. -/
def spellings : List (String × String) :=
  ("==", "=") :: named.map fun entry => (entry.2, entry.2)

/-- A spelling without blanks at its ends, in upper case. -/
def normalize (spelling : String) : String := Text.upper (Text.trim spelling)

/-- The operator that a spelling names. -/
def ofSpelling? (spelling : String) : Option Operator :=
  (spellings.lookup (normalize spelling)).map Operator.mk

/-- The name that a spelling suggests to someone looking for a constant. -/
def suggestedName (spelling : String) : String :=
  let name (c : Char) : Char := if c = ' ' then '_' else if c = '!' then 'N' else c
  String.ofList ((Text.upper spelling).toList.map name)

/-- What is said of a spelling that names no operator. -/
def unknownMessage (spelling : String) : String :=
  "Unknown operator '" ++ spelling ++ "'. Use Operator::" ++ suggestedName spelling ++
    " constants or Operator::custom(\"" ++ spelling ++ "\") for custom operators."

/-- The operator as messages show it. -/
def debug (o : Operator) : String := "Operator(" ++ Text.quoted o.text ++ ")"

end Operator

/-- An operator as a caller gives it: itself, or by a spelling. -/
inductive OperatorArg where
  | operator (o : Operator)
  | spelled (spelling : String)
deriving DecidableEq, Repr

/-- A spelling that names no operator. -/
structure UnknownOperator where
  spelling : String
deriving DecidableEq, Repr

/-- The words for an unknown spelling. -/
def UnknownOperator.message (e : UnknownOperator) : String := Operator.unknownMessage e.spelling

/-- The operator that a caller means. -/
def OperatorArg.resolve : OperatorArg → Except UnknownOperator Operator
  | .operator o => .ok o
  | .spelled s =>
      match Operator.ofSpelling? s with
      | some o => .ok o
      | none => .error ⟨s⟩

end SqlChain
