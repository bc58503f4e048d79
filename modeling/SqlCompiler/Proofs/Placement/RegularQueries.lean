import SqlCompiler.Proofs.Placement.Scanning
import SqlCompiler.Query.Bindings
import SqlCompiler.Select.Assembly

namespace SqlCompiler

def Operand.Sound (d : Dialect) : Operand → Prop
  | .value _ => True
  | .raw sql => d.Inert sql

def Order.Sound (d : Dialect) : Order → Prop
  | .column name _ => PlainText name
  | .raw sql values => d.Holds sql values.length
  | .random _ => True

def Grouping.Sound (d : Dialect) : Grouping → Prop
  | .column name => PlainText name
  | .raw sql values => d.Holds sql values.length

def Distinct.Sound : Distinct → Prop
  | .columns names => ∀ name ∈ names, PlainText name
  | .off | .rows => True

def Lock.Sound (d : Dialect) : Lock → Prop
  | .raw sql => d.Inert sql
  | .update | .shared => True

/-- What a query binds is also written: a group limit takes the place of a union, the orders of a union need a union,
and an aggregate that is taken of the rows themselves takes the place of the select list. -/
structure Query.Places (numbersRows : Bool) (q : Query) : Prop where
  groupLimit : q.groupLimit.isSome → q.unions = []
  unionOrders : q.unions = [] → q.unionOrders = []
  aggregate : q.aggregate.isSome → ¬ Target.aggregatesDerived q → selectionBindings numbersRows q.columns = []

mutual

inductive Query.Sound (t : Target) : Query → Prop
  | intro {q : Query}
    (aggregate : ∀ a ∈ q.aggregate, ∀ name ∈ a.columns, PlainText name)
    (columns : ∀ item ∈ q.columns, Selection.Sound t item)
    (distinct : q.distinct.Sound)
    (source : ∀ source ∈ q.source, Source.Sound t source)
    (indexHint : ∀ hint ∈ q.indexHint, PlainText hint.indexes)
    (joins : ∀ join ∈ q.joins, Join.Sound t join)
    (wheres : ∀ p ∈ q.wheres, Predicate.Sound t p)
    (groups : ∀ group ∈ q.groups, group.Sound t.dialect)
    (havings : ∀ p ∈ q.havings, Predicate.Sound t p)
    (orders : ∀ order ∈ q.orders, order.Sound t.dialect)
    (groupLimit : ∀ g ∈ q.groupLimit, PlainText g.column)
    (unions : ∀ union ∈ q.unions, Union.Sound t union)
    (unionOrders : ∀ order ∈ q.unionOrders, order.Sound t.dialect)
    (lock : ∀ lock ∈ q.lock, lock.Sound t.dialect) :
    Query.Sound t q

inductive Selection.Sound (t : Target) : Selection → Prop
  | column {name : String} (plain : PlainText name) : Selection.Sound t (.column name)
  | raw {sql : String} {values : List Value} (holds : t.dialect.Holds sql values.length) :
    Selection.Sound t (.raw sql values)
  | derived {q : Query} {label : String} (sound : q.Sound t) (places : q.Places t.numbersRows)
    (plain : PlainText label) : Selection.Sound t (.derived q label)

inductive Source.Sound (t : Target) : Source → Prop
  | table {name : String} (plain : PlainText name) : Source.Sound t (.table name)
  | raw {sql : String} {values : List Value} (holds : t.dialect.Holds sql values.length) :
    Source.Sound t (.raw sql values)
  | derived {q : Query} {label : String} (sound : q.Sound t) (places : q.Places t.numbersRows)
    (plain : PlainText label) : Source.Sound t (.derived q label)

/-- A lateral join has no place for conditions. -/
inductive Join.Sound (t : Target) : Join → Prop
  | intro {join : Join} (target : JoinTarget.Sound t join.target)
    (on : ∀ p ∈ join.on, Predicate.Sound t p)
    (lateral : join.target.isLateral → join.on = []) : Join.Sound t join

inductive JoinTarget.Sound (t : Target) : JoinTarget → Prop
  | table {name : String} (plain : PlainText name) : JoinTarget.Sound t (.table name)
  | derived {q : Query} {label : String} (sound : q.Sound t) (places : q.Places t.numbersRows)
    (plain : PlainText label) : JoinTarget.Sound t (.derived q label)
  | lateral {q : Query} {label : String} (sound : q.Sound t) (places : q.Places t.numbersRows)
    (plain : PlainText label) : JoinTarget.Sound t (.lateral q label)

inductive Predicate.Sound (t : Target) : Predicate → Prop
  | intro {p : Predicate} (condition : Condition.Sound t p.condition) : Predicate.Sound t p

inductive Condition.Sound (t : Target) : Condition → Prop
  | compare {column : String} {op : Operator} {value : Operand} (plain : PlainText column)
    (sound : value.Sound t.dialect) : Condition.Sound t (.compare column op value)
  | compareColumns {first : String} {op : Operator} {second : String} (plain : PlainText first)
    (plain' : PlainText second) : Condition.Sound t (.compareColumns first op second)
  | raw {sql : String} {values : List Value} (holds : t.dialect.Holds sql values.length) :
    Condition.Sound t (.raw sql values)
  | nested {clause : List Predicate} (all : ∀ p ∈ clause, Predicate.Sound t p) : Condition.Sound t (.nested clause)
  | hasRows {query : Subquery} (sound : Subquery.Sound t query) : Condition.Sound t (.hasRows query)
  | isNull {column : String} {negated : Bool} (plain : PlainText column) :
    Condition.Sound t (.isNull column negated)
  | datePart {column : String} {part : DatePart} {op : Operator} {value : Operand} (plain : PlainText column)
    (sound : value.Sound t.dialect) : Condition.Sound t (.datePart column part op value)
  | inList {column : String} {values : List Operand} {negated : Bool} (plain : PlainText column)
    (all : ∀ value ∈ values, value.Sound t.dialect) : Condition.Sound t (.inList column values negated)
  | inQuery {column : String} {query : Subquery} {negated : Bool} (plain : PlainText column)
    (sound : Subquery.Sound t query) : Condition.Sound t (.inQuery column query negated)
  | between {column : String} {low high : Operand} {negated : Bool} (plain : PlainText column)
    (lowSound : low.Sound t.dialect) (highSound : high.Sound t.dialect) :
    Condition.Sound t (.between column low high negated)
  | betweenColumns {column low high : String} {negated : Bool} (plain : PlainText column)
    (lowPlain : PlainText low) (highPlain : PlainText high) :
    Condition.Sound t (.betweenColumns column low high negated)
  | compareQuery {column : String} {op : Operator} {query : Subquery} (plain : PlainText column)
    (sound : Subquery.Sound t query) : Condition.Sound t (.compareQuery column op query)
  | compareRow {columns : List String} {op : Operator} {values : List Operand}
    (plain : ∀ column ∈ columns, PlainText column) (all : ∀ value ∈ values, value.Sound t.dialect) :
    Condition.Sound t (.compareRow columns op values)
  | jsonContains {column : String} {document : Json} (plain : PlainText column) :
    Condition.Sound t (.jsonContains column document)
  | jsonHasKey {column : String} (plain : PlainText column) : Condition.Sound t (.jsonHasKey column)
  | jsonLength {column : String} {op : Operator} {value : Operand} (plain : PlainText column)
    (sound : value.Sound t.dialect) : Condition.Sound t (.jsonLength column op value)
  | fullText {columns : List String} {terms : String} {options : FullTextOptions}
    (plain : ∀ column ∈ columns, PlainText column) : Condition.Sound t (.fullText columns terms options)

inductive Subquery.Sound (t : Target) : Subquery → Prop
  | query {q : Query} (sound : q.Sound t) (places : q.Places t.numbersRows) : Subquery.Sound t (.query q)
  | raw {sql : String} {values : List Value} (holds : t.dialect.Holds sql values.length) :
    Subquery.Sound t (.raw sql values)

inductive Union.Sound (t : Target) : Union → Prop
  | intro {union : Union} (sound : union.query.Sound t) (places : union.query.Places t.numbersRows) :
    Union.Sound t union

end

/-- All of a query, and of the queries within it, can be placed in a select statement. -/
structure Query.Regular (t : Target) (q : Query) : Prop where
  sound : q.Sound t
  places : q.Places t.numbersRows

end SqlCompiler
