import Mathlib.Data.List.Forall2
import SqlCompiler.Query.Bindings

namespace SqlCompiler

def eraseValues (values : List Value) : List Value := values.map fun _ => .null

@[simp]
theorem length_eraseValues (values : List Value) : (eraseValues values).length = values.length := List.length_map _

def Operand.erase : Operand → Operand
  | .value _ => .value .null
  | .raw sql => .raw sql

def Order.erase : Order → Order
  | .column name direction => .column name direction
  | .raw sql values => .raw sql (eraseValues values)
  | .random seed => .random seed

def Grouping.erase : Grouping → Grouping
  | .column name => .column name
  | .raw sql values => .raw sql (eraseValues values)

mutual

def Query.erase : Query → Query
  | ⟨aggregate, columns, distinct, source, indexHint, joins, wheres, groups, havings, orders, limit, offset, groupLimit,
      unions, unionOrders, unionLimit, unionOffset, lock⟩ =>
    ⟨aggregate, eraseSelections columns, distinct, eraseSource source, indexHint, eraseJoins joins, eraseClause wheres,
      groups.map Grouping.erase, eraseClause havings, orders.map Order.erase, limit, offset, groupLimit,
      eraseUnions unions, unionOrders.map Order.erase, unionLimit, unionOffset, lock⟩

def eraseSelections : List Selection → List Selection
  | [] => []
  | item :: rest => item.erase :: eraseSelections rest

def Selection.erase : Selection → Selection
  | .column name => .column name
  | .raw sql values => .raw sql (eraseValues values)
  | .derived q label => .derived q.erase label

def eraseSource : Option Source → Option Source
  | none => none
  | some source => some source.erase

def Source.erase : Source → Source
  | .table name => .table name
  | .raw sql values => .raw sql (eraseValues values)
  | .derived q label => .derived q.erase label

def eraseJoins : List Join → List Join
  | [] => []
  | item :: rest => item.erase :: eraseJoins rest

def Join.erase : Join → Join
  | ⟨kind, target, on⟩ => ⟨kind, target.erase, eraseClause on⟩

def JoinTarget.erase : JoinTarget → JoinTarget
  | .table name => .table name
  | .derived q label => .derived q.erase label
  | .lateral q label => .lateral q.erase label

def eraseClause : List Predicate → List Predicate
  | [] => []
  | item :: rest => item.erase :: eraseClause rest

def Predicate.erase : Predicate → Predicate
  | ⟨condition, conjunction, negated⟩ => ⟨condition.erase, conjunction, negated⟩

/-- A document loses its contents and search terms become none, since a statement binds them. -/
def Condition.erase : Condition → Condition
  | .compare column op value => .compare column op value.erase
  | .compareColumns first op second => .compareColumns first op second
  | .raw sql values => .raw sql (eraseValues values)
  | .nested clause => .nested (eraseClause clause)
  | .hasRows query => .hasRows query.erase
  | .isNull column negated => .isNull column negated
  | .datePart column part op value => .datePart column part op value.erase
  | .inList column values negated => .inList column (values.map Operand.erase) negated
  | .inQuery column query negated => .inQuery column query.erase negated
  | .between column low high negated => .between column low.erase high.erase negated
  | .betweenColumns column low high negated => .betweenColumns column low high negated
  | .compareQuery column op query => .compareQuery column op query.erase
  | .compareRow columns op values => .compareRow columns op (values.map Operand.erase)
  | .jsonContains column _ => .jsonContains column .null
  | .jsonHasKey column => .jsonHasKey column
  | .jsonLength column op value => .jsonLength column op value.erase
  | .fullText columns _ options => .fullText columns "" options

def Subquery.erase : Subquery → Subquery
  | .query q => .query q.erase
  | .raw sql values => .raw sql (eraseValues values)

def eraseUnions : List Union → List Union
  | [] => []
  | ⟨q, all⟩ :: rest => ⟨q.erase, all⟩ :: eraseUnions rest

end

theorem isEmpty_eraseClause (clause : Clause) : (eraseClause clause).isEmpty = clause.isEmpty := by
  cases clause <;> rfl

theorem isEmpty_eraseJoins (joins : List Join) : (eraseJoins joins).isEmpty = joins.isEmpty := by
  cases joins <;> rfl

theorem isEmpty_eraseUnions (unions : List Union) : (eraseUnions unions).isEmpty = unions.isEmpty := by
  cases unions with
  | nil => rfl
  | cons head rest =>
    cases head
    rfl

theorem isLateral_erase (target : JoinTarget) : target.erase.isLateral = target.isLateral := by
  cases target <;> rfl

theorem Operand.length_bindings_erase (value : Operand) : value.erase.bindings.length = value.bindings.length := by
  cases value <;> rfl

theorem Order.length_bindings_erase (order : Order) : order.erase.bindings.length = order.bindings.length := by
  cases order <;> simp [Order.erase, Order.bindings]

theorem Grouping.length_bindings_erase (group : Grouping) :
    group.erase.bindings.length = group.bindings.length := by
  cases group <;> simp [Grouping.erase, Grouping.bindings]

theorem length_flatMap_related {α β : Type} {R : α → β → Prop} {first : α → List Value} {second : β → List Value}
    (each : ∀ a b, R a b → (first a).length = (second b).length) {as : List α} {bs : List β}
    (related : List.Forall₂ R as bs) : (as.flatMap first).length = (bs.flatMap second).length := by
  induction related with
  | nil => rfl
  | cons head tail ih =>
    have same := each _ _ head
    simp only [List.flatMap_cons, List.length_append, same, ih]

theorem length_flatMap_erase {α : Type} {erase : α → α} {bindings : α → List Value}
    (each : ∀ item, (bindings (erase item)).length = (bindings item).length) (items : List α) :
    ((items.map erase).flatMap bindings).length = (items.flatMap bindings).length := by
  have erased : List.Forall₂ (fun a item => a = erase item) (items.map erase) items :=
    List.forall₂_map_left_iff.mpr (List.forall₂_same.mpr fun _ _ => rfl)
  apply length_flatMap_related _ erased
  rintro _ item rfl
  exact each item

theorem Query.bucketOrder_erase (numbersRows : Bool) (q : Query) :
    q.erase.bucketOrder numbersRows = q.bucketOrder numbersRows := by
  cases q
  rfl

theorem Bindings.length_flatten {b b' : Bindings} (same : ∀ bucket, (b.held bucket).length = (b'.held bucket).length)
    (order : List Bucket) : (b.flatten order).length = (b'.flatten order).length := by
  simp only [flatten, List.length_flatMap, same]

theorem Query.length_bindings_of_held {numbersRows : Bool} {q : Query}
    (held : ∀ bucket, ((q.erase.buckets numbersRows).held bucket).length =
      ((q.buckets numbersRows).held bucket).length) :
    (q.erase.bindings numbersRows).length = (q.bindings numbersRows).length := by
  rw [Query.bindings, Query.bindings, bucketOrder_erase]
  exact Bindings.length_flatten held _

mutual

theorem Query.length_held_erase (numbersRows : Bool) :
    ∀ (q : Query) (bucket : Bucket), ((q.erase.buckets numbersRows).held bucket).length =
      ((q.buckets numbersRows).held bucket).length
  | ⟨_, columns, _, source, _, joins, wheres, groups, havings, orders, _, _, _, unions, unionOrders, _, _, _⟩,
    bucket => by
    cases bucket with
    | select => exact length_selectionBindings_erase numbersRows columns
    | «from» => exact length_sourceBindings_erase numbersRows source
    | join => exact length_joinBindings_erase numbersRows joins
    | «where» => exact length_clauseBindings_erase numbersRows wheres
    | groupBy => exact length_flatMap_erase Grouping.length_bindings_erase groups
    | having => exact length_clauseBindings_erase numbersRows havings
    | order => exact length_flatMap_erase Order.length_bindings_erase orders
    | union => exact length_unionBindings_erase numbersRows unions
    | unionOrder => exact length_flatMap_erase Order.length_bindings_erase unionOrders

theorem length_selectionBindings_erase (numbersRows : Bool) :
    ∀ items : List Selection, (selectionBindings numbersRows (eraseSelections items)).length =
      (selectionBindings numbersRows items).length
  | [] => rfl
  | item :: rest => by
    have first := Selection.length_bindings_erase numbersRows item
    have later := length_selectionBindings_erase numbersRows rest
    simp only [eraseSelections, selectionBindings, List.length_append, first, later]

theorem Selection.length_bindings_erase (numbersRows : Bool) :
    ∀ item : Selection, (item.erase.bindings numbersRows).length = (item.bindings numbersRows).length
  | .column _ => rfl
  | .raw _ values => length_eraseValues values
  | .derived q _ => Query.length_bindings_of_held (Query.length_held_erase numbersRows q)

theorem length_sourceBindings_erase (numbersRows : Bool) :
    ∀ source : Option Source, (sourceBindings numbersRows (eraseSource source)).length =
      (sourceBindings numbersRows source).length
  | none => rfl
  | some source => Source.length_bindings_erase numbersRows source

theorem Source.length_bindings_erase (numbersRows : Bool) :
    ∀ source : Source, (source.erase.bindings numbersRows).length = (source.bindings numbersRows).length
  | .table _ => rfl
  | .raw _ values => length_eraseValues values
  | .derived q _ => Query.length_bindings_of_held (Query.length_held_erase numbersRows q)

theorem length_joinBindings_erase (numbersRows : Bool) :
    ∀ items : List Join, (joinBindings numbersRows (eraseJoins items)).length =
      (joinBindings numbersRows items).length
  | [] => rfl
  | ⟨_, target, on⟩ :: rest => by
    have rows := JoinTarget.length_bindings_erase numbersRows target
    have tests := length_clauseBindings_erase numbersRows on
    have later := length_joinBindings_erase numbersRows rest
    simp only [eraseJoins, Join.erase, joinBindings, List.length_append, rows, tests, later]

theorem JoinTarget.length_bindings_erase (numbersRows : Bool) :
    ∀ target : JoinTarget, (target.erase.bindings numbersRows).length = (target.bindings numbersRows).length
  | .table _ => rfl
  | .derived q _ => Query.length_bindings_of_held (Query.length_held_erase numbersRows q)
  | .lateral q _ => Query.length_bindings_of_held (Query.length_held_erase numbersRows q)

theorem length_clauseBindings_erase (numbersRows : Bool) :
    ∀ clause : List Predicate, (clauseBindings numbersRows (eraseClause clause)).length =
      (clauseBindings numbersRows clause).length
  | [] => rfl
  | ⟨condition, _, _⟩ :: rest => by
    have first := Condition.length_bindings_erase numbersRows condition
    have later := length_clauseBindings_erase numbersRows rest
    simp only [eraseClause, Predicate.erase, clauseBindings, List.length_append, first, later]

theorem Condition.length_bindings_erase (numbersRows : Bool) :
    ∀ condition : Condition, (condition.erase.bindings numbersRows).length =
      (condition.bindings numbersRows).length
  | .compare _ _ value => value.length_bindings_erase
  | .compareColumns _ _ _ => rfl
  | .raw _ values => length_eraseValues values
  | .nested clause => length_clauseBindings_erase numbersRows clause
  | .hasRows query => Subquery.length_bindings_erase numbersRows query
  | .isNull _ _ => rfl
  | .datePart _ _ _ value => value.length_bindings_erase
  | .inList _ values _ => length_flatMap_erase Operand.length_bindings_erase values
  | .inQuery _ query _ => Subquery.length_bindings_erase numbersRows query
  | .between _ low high _ => by
    simp only [Condition.erase, Condition.bindings, List.length_append, Operand.length_bindings_erase]
  | .betweenColumns _ _ _ _ => rfl
  | .compareQuery _ _ query => Subquery.length_bindings_erase numbersRows query
  | .compareRow _ _ values => length_flatMap_erase Operand.length_bindings_erase values
  | .jsonContains _ _ => rfl
  | .jsonHasKey _ => rfl
  | .jsonLength _ _ value => value.length_bindings_erase
  | .fullText _ _ _ => rfl

theorem Subquery.length_bindings_erase (numbersRows : Bool) :
    ∀ query : Subquery, (query.erase.bindings numbersRows).length = (query.bindings numbersRows).length
  | .query q => Query.length_bindings_of_held (Query.length_held_erase numbersRows q)
  | .raw _ values => length_eraseValues values

theorem length_unionBindings_erase (numbersRows : Bool) :
    ∀ unions : List Union, (unionBindings numbersRows (eraseUnions unions)).length =
      (unionBindings numbersRows unions).length
  | [] => rfl
  | ⟨q, _⟩ :: rest => by
    have first := Query.length_bindings_of_held (Query.length_held_erase numbersRows q)
    have later := length_unionBindings_erase numbersRows rest
    rw [Query.bindings, Query.bindings] at first
    simp only [eraseUnions, unionBindings, List.length_append, first, later]

end

theorem Query.length_bindings_erase (numbersRows : Bool) (q : Query) :
    (q.erase.bindings numbersRows).length = (q.bindings numbersRows).length :=
  length_bindings_of_held (q.length_held_erase numbersRows)

end SqlCompiler
