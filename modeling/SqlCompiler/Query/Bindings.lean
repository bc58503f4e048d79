import SqlCompiler.Query.Basic

namespace SqlCompiler

inductive Bucket
  | select
  | from
  | join
  | where
  | groupBy
  | having
  | order
  | union
  | unionOrder
deriving DecidableEq

namespace Bucket

def name : Bucket → String
  | .select => "select"
  | .from => "from"
  | .join => "join"
  | .where => "where"
  | .groupBy => "group_by"
  | .having => "having"
  | .order => "order"
  | .union => "union"
  | .unionOrder => "union_order"

def usualOrder : List Bucket :=
  [.select, .from, .join, .where, .groupBy, .having, .order, .union, .unionOrder]

/-- The order of the parts when rows are numbered within groups: the row number, and with it the order, stands in
the select list. -/
def numberedOrder : List Bucket :=
  [.select, .order, .from, .join, .where, .groupBy, .having, .union, .unionOrder]

theorem mem_usualOrder (b : Bucket) : b ∈ usualOrder := by cases b <;> decide

theorem numberedOrder_perm : numberedOrder.Perm usualOrder := by decide

end Bucket

structure Bindings where
  held : Bucket → List Value

namespace Bindings

def empty : Bindings := ⟨fun _ => []⟩

def extend (b : Bindings) (bucket : Bucket) (values : List Value) : Bindings :=
  ⟨fun other => if other = bucket then b.held other ++ values else b.held other⟩

def clear (b : Bindings) (bucket : Bucket) : Bindings :=
  ⟨fun other => if other = bucket then [] else b.held other⟩

def take (b : Bindings) (bucket : Bucket) : List Value × Bindings := (b.held bucket, b.clear bucket)

def flatten (b : Bindings) (order : List Bucket) : List Value := order.flatMap b.held

def flattenExcept (b : Bindings) (skip : List Bucket) : List Value :=
  b.flatten (Bucket.usualOrder.filter fun bucket => !skip.contains bucket)

def length (b : Bindings) : Nat := (b.flatten Bucket.usualOrder).length

def isEmpty (b : Bindings) : Bool := Bucket.usualOrder.all fun bucket => (b.held bucket).isEmpty

end Bindings

def Order.bindings : Order → List Value
  | .raw _ values => values
  | _ => []

def Grouping.bindings : Grouping → List Value
  | .raw _ values => values
  | .column _ => []

/-- The order in which a query binds its buckets. -/
def Query.bucketOrder (numbersRows : Bool) (q : Query) : List Bucket :=
  if q.groupLimit.isSome ∧ numbersRows then Bucket.numberedOrder else Bucket.usualOrder

mutual

/-- The values of a query by part. `numbersRows` says that groups are limited by numbering their rows. -/
def Query.buckets (numbersRows : Bool) : Query → Bindings
  | ⟨_, columns, _, source, _, joins, wheres, groups, havings, orders, _, _, _, unions, unionOrders, _, _, _⟩ =>
    ⟨fun
      | .select => selectionBindings numbersRows columns
      | .from => sourceBindings numbersRows source
      | .join => joinBindings numbersRows joins
      | .where => clauseBindings numbersRows wheres
      | .groupBy => groups.flatMap Grouping.bindings
      | .having => clauseBindings numbersRows havings
      | .order => orders.flatMap Order.bindings
      | .union => unionBindings numbersRows unions
      | .unionOrder => unionOrders.flatMap Order.bindings⟩

def selectionBindings (numbersRows : Bool) : List Selection → List Value
  | [] => []
  | item :: rest => item.bindings numbersRows ++ selectionBindings numbersRows rest

def Selection.bindings (numbersRows : Bool) : Selection → List Value
  | .column _ => []
  | .raw _ values => values
  | .derived q _ => (q.buckets numbersRows).flatten (q.bucketOrder numbersRows)

def sourceBindings (numbersRows : Bool) : Option Source → List Value
  | none => []
  | some source => source.bindings numbersRows

def Source.bindings (numbersRows : Bool) : Source → List Value
  | .table _ => []
  | .raw _ values => values
  | .derived q _ => (q.buckets numbersRows).flatten (q.bucketOrder numbersRows)

def joinBindings (numbersRows : Bool) : List Join → List Value
  | [] => []
  | ⟨_, target, on⟩ :: rest =>
    target.bindings numbersRows ++ clauseBindings numbersRows on ++ joinBindings numbersRows rest

def JoinTarget.bindings (numbersRows : Bool) : JoinTarget → List Value
  | .table _ => []
  | .derived q _ => (q.buckets numbersRows).flatten (q.bucketOrder numbersRows)
  | .lateral q _ => (q.buckets numbersRows).flatten (q.bucketOrder numbersRows)

def clauseBindings (numbersRows : Bool) : List Predicate → List Value
  | [] => []
  | ⟨condition, _, _⟩ :: rest => condition.bindings numbersRows ++ clauseBindings numbersRows rest

def Condition.bindings (numbersRows : Bool) : Condition → List Value
  | .compare _ _ value => value.bindings
  | .compareColumns _ _ _ => []
  | .raw _ values => values
  | .nested clause => clauseBindings numbersRows clause
  | .hasRows q => q.bindings numbersRows
  | .isNull _ _ => []
  | .datePart _ _ _ value => value.bindings
  | .inList _ values _ => values.flatMap Operand.bindings
  | .inQuery _ q _ => q.bindings numbersRows
  | .between _ low high _ => low.bindings ++ high.bindings
  | .betweenColumns _ _ _ _ => []
  | .compareQuery _ _ q => q.bindings numbersRows
  | .compareRow _ _ values => values.flatMap Operand.bindings
  | .jsonContains _ document => [.json document]
  | .jsonHasKey _ => []
  | .jsonLength _ _ value => value.bindings
  | .fullText _ terms _ => [.text terms]

def Subquery.bindings (numbersRows : Bool) : Subquery → List Value
  | .query q => (q.buckets numbersRows).flatten (q.bucketOrder numbersRows)
  | .raw _ values => values

def unionBindings (numbersRows : Bool) : List Union → List Value
  | [] => []
  | ⟨q, _⟩ :: rest =>
    (q.buckets numbersRows).flatten (q.bucketOrder numbersRows) ++ unionBindings numbersRows rest

end

def Query.bindings (numbersRows : Bool) (q : Query) : List Value :=
  (q.buckets numbersRows).flatten (q.bucketOrder numbersRows)

end SqlCompiler
