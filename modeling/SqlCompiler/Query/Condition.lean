import SqlCompiler.Query.Basic
import SqlCompiler.Query.DatePart

namespace SqlCompiler

namespace Condition

/-- Equality with null is a test for null, which is what it says in every dialect. -/
def ofComparison (column : String) (op : Operator) (value : Operand) : Condition :=
  match op, value with
  | .eq, .value .null => .isNull column false
  | .notEq, .value .null => .isNull column true
  | _, _ => .compare column op value

def ofDatePart (column : String) (part : DatePart) (op : Operator) (value : Operand) : Except Error Condition := do
  return .datePart column part op (← part.normalize value)

def ofList (column : String) (values : List Operand) (negated : Bool) : Except Error Condition :=
  if values.any Operand.isArray then .error (.invalid .arrayInList) else .ok (.inList column values negated)

def ofRow (columns : List String) (op : Operator) (values : List Operand) : Except Error Condition :=
  if columns = [] ∨ columns.length ≠ values.length then
    .error (.invalid (.rowWidths columns.length values.length))
  else
    .ok (.compareRow columns op values)

end Condition

namespace Clause

def add (clause : Clause) (condition : Condition) (conjunction : Conjunction) (negated : Bool) : Clause :=
  clause ++ [⟨condition, conjunction, negated⟩]

/-- Adds a clause in brackets; one without conditions says nothing and is left out. -/
def addClause (clause inner : Clause) (conjunction : Conjunction) (negated : Bool) : Clause :=
  if inner.isEmpty then clause else clause.add (.nested inner) conjunction negated

end Clause

end SqlCompiler
