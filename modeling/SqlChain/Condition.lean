import SqlChain.Operator
import SqlChain.Value.Basic

/-!
# Conditions

A condition compares a column with a value, or asks something of the column
alone. Its text carries a placeholder exactly if the condition carries a value.
-/

namespace SqlChain

/-- A column, an operator and perhaps a value. -/
structure Condition where
  column : String
  operator : Operator
  value : Option Value
deriving DecidableEq, Repr

namespace Condition

/-- The text of the condition, a placeholder for its value. -/
def sql (c : Condition) : String :=
  match c.value with
  | some _ => c.column ++ " " ++ c.operator.text ++ " ?"
  | none => c.column ++ " " ++ c.operator.text

/-- The values bound by the condition: its own, if it has one. -/
def values (c : Condition) : List Value := c.value.toList

/-- Compare a column with a value. An operator that takes no value drops it. -/
def compare (column : String) (operator : Operator) (value : Value) : Condition :=
  ⟨column, operator, if operator.isUnary then none else some value⟩

/-- Ask something of a column alone. -/
def ask (column : String) (operator : Operator) : Condition := ⟨column, operator, none⟩

end Condition

/-- A condition as a caller gives it. -/
inductive ConditionArg where
  | compare (column : String) (operator : OperatorArg) (value : Value)
  | ask (column : String) (operator : OperatorArg)
  | exact (condition : Condition)
deriving DecidableEq, Repr

/-- The condition that a caller means. -/
def ConditionArg.resolve : ConditionArg → Except UnknownOperator Condition
  | .compare column operator value => return .compare column (← operator.resolve) value
  | .ask column operator => return .ask column (← operator.resolve)
  | .exact condition => return condition

end SqlChain
