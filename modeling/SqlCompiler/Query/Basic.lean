import SqlCompiler.Error
import SqlCompiler.Sql

namespace SqlCompiler

inductive Order
  | column (name : String) (direction : Direction)
  | raw (sql : String) (values : List Value)
  | random (seed : Option UInt64)

inductive Grouping
  | column (name : String)
  | raw (sql : String) (values : List Value)

mutual

structure Query where
  aggregate : Option Aggregate := none
  columns : List Selection := []
  distinct : Distinct := .off
  source : Option Source := none
  indexHint : Option IndexHint := none
  joins : List Join := []
  wheres : List Predicate := []
  groups : List Grouping := []
  havings : List Predicate := []
  orders : List Order := []
  limit : Option UInt64 := none
  offset : Option UInt64 := none
  groupLimit : Option GroupLimit := none
  unions : List Union := []
  unionOrders : List Order := []
  unionLimit : Option UInt64 := none
  unionOffset : Option UInt64 := none
  lock : Option Lock := none

inductive Selection
  | column (name : String)
  | raw (sql : String) (values : List Value)
  | derived (query : Query) (label : String)

inductive Source
  | table (name : String)
  | raw (sql : String) (values : List Value)
  | derived (query : Query) (label : String)

structure Join where
  kind : JoinKind
  target : JoinTarget
  on : List Predicate

/-- What is joined. The rows of a lateral query may depend on the row that they are joined to. -/
inductive JoinTarget
  | table (name : String)
  | derived (query : Query) (label : String)
  | lateral (query : Query) (label : String)

structure Predicate where
  condition : Condition
  conjunction : Conjunction
  negated : Bool

inductive Condition
  | compare (column : String) (op : Operator) (value : Operand)
  | compareColumns (first : String) (op : Operator) (second : String)
  | raw (sql : String) (values : List Value)
  | nested (clause : List Predicate)
  | hasRows (query : Subquery)
  | isNull (column : String) (negated : Bool)
  | datePart (column : String) (part : DatePart) (op : Operator) (value : Operand)
  | inList (column : String) (values : List Operand) (negated : Bool)
  | inQuery (column : String) (query : Subquery) (negated : Bool)
  | between (column : String) (low high : Operand) (negated : Bool)
  | betweenColumns (column low high : String) (negated : Bool)
  | compareQuery (column : String) (op : Operator) (query : Subquery)
  | compareRow (columns : List String) (op : Operator) (values : List Operand)
  | jsonContains (column : String) (document : Json)
  | jsonHasKey (column : String)
  | jsonLength (column : String) (op : Operator) (value : Operand)
  | fullText (columns : List String) (terms : String) (options : FullTextOptions)

inductive Subquery
  | query (q : Query)
  | raw (sql : String) (values : List Value)

structure Union where
  query : Query
  all : Bool

end

/-- Conditions in the order in which they are written. The word that joins the first to the one before it is not
written. -/
abbrev Clause := List Predicate

instance : Inhabited Query := ⟨{}⟩

def JoinTarget.isLateral : JoinTarget → Bool
  | .lateral _ _ => true
  | _ => false

def Source.table? : Source → Option String
  | .table name => some name
  | _ => none

end SqlCompiler
