import SqlCompiler.Proofs.Placement.Rows
import SqlCompiler.Select.Compile

namespace SqlCompiler

mutual

/-- The query without the conditions of its lateral joins, at every depth. -/
def Query.bare : Query → Query
  | ⟨aggregate, columns, distinct, source, indexHint, joins, wheres, groups, havings, orders, limit, offset, groupLimit,
      unions, unionOrders, unionLimit, unionOffset, lock⟩ =>
    ⟨aggregate, bareSelections columns, distinct, bareSource source, indexHint, bareJoins joins, bareClause wheres,
      groups, bareClause havings, orders, limit, offset, groupLimit, bareUnions unions, unionOrders, unionLimit,
      unionOffset, lock⟩

def bareSelections : List Selection → List Selection
  | [] => []
  | item :: rest => item.bare :: bareSelections rest

def Selection.bare : Selection → Selection
  | .column name => .column name
  | .raw sql values => .raw sql values
  | .derived q label => .derived q.bare label

def bareSource : Option Source → Option Source
  | none => none
  | some source => some source.bare

def Source.bare : Source → Source
  | .table name => .table name
  | .raw sql values => .raw sql values
  | .derived q label => .derived q.bare label

def bareJoins : List Join → List Join
  | [] => []
  | item :: rest => item.bare :: bareJoins rest

def Join.bare : Join → Join
  | ⟨kind, target, on⟩ => ⟨kind, target.bare, if target.isLateral then [] else bareClause on⟩

def JoinTarget.bare : JoinTarget → JoinTarget
  | .table name => .table name
  | .derived q label => .derived q.bare label
  | .lateral q label => .lateral q.bare label

def bareClause : List Predicate → List Predicate
  | [] => []
  | item :: rest => item.bare :: bareClause rest

def Predicate.bare : Predicate → Predicate
  | ⟨condition, conjunction, negated⟩ => ⟨condition.bare, conjunction, negated⟩

def Condition.bare : Condition → Condition
  | .nested clause => .nested (bareClause clause)
  | .hasRows query => .hasRows query.bare
  | .inQuery column query negated => .inQuery column query.bare negated
  | .compareQuery column op query => .compareQuery column op query.bare
  | condition => condition

def Subquery.bare : Subquery → Subquery
  | .query q => .query q.bare
  | .raw sql values => .raw sql values

def bareUnions : List Union → List Union
  | [] => []
  | ⟨q, all⟩ :: rest => ⟨q.bare, all⟩ :: bareUnions rest

end

mutual

/-- How many values the conditions of lateral joins bind, at every depth. -/
def Query.laterals (numbersRows : Bool) : Query → Nat
  | ⟨_, columns, _, source, _, joins, wheres, _, havings, _, _, _, _, unions, _, _, _, _⟩ =>
    selectionLaterals numbersRows columns + sourceLaterals numbersRows source + joinLaterals numbersRows joins +
      clauseLaterals numbersRows wheres + clauseLaterals numbersRows havings + unionLaterals numbersRows unions

def selectionLaterals (numbersRows : Bool) : List Selection → Nat
  | [] => 0
  | item :: rest => item.laterals numbersRows + selectionLaterals numbersRows rest

def Selection.laterals (numbersRows : Bool) : Selection → Nat
  | .column _ => 0
  | .raw _ _ => 0
  | .derived q _ => q.laterals numbersRows

def sourceLaterals (numbersRows : Bool) : Option Source → Nat
  | none => 0
  | some source => source.laterals numbersRows

def Source.laterals (numbersRows : Bool) : Source → Nat
  | .table _ => 0
  | .raw _ _ => 0
  | .derived q _ => q.laterals numbersRows

def joinLaterals (numbersRows : Bool) : List Join → Nat
  | [] => 0
  | ⟨_, target, on⟩ :: rest =>
    target.laterals numbersRows +
      (if target.isLateral then (clauseBindings numbersRows on).length else clauseLaterals numbersRows on) +
      joinLaterals numbersRows rest

def JoinTarget.laterals (numbersRows : Bool) : JoinTarget → Nat
  | .table _ => 0
  | .derived q _ => q.laterals numbersRows
  | .lateral q _ => q.laterals numbersRows

def clauseLaterals (numbersRows : Bool) : List Predicate → Nat
  | [] => 0
  | ⟨condition, _, _⟩ :: rest => condition.laterals numbersRows + clauseLaterals numbersRows rest

def Condition.laterals (numbersRows : Bool) : Condition → Nat
  | .nested clause => clauseLaterals numbersRows clause
  | .hasRows query => query.laterals numbersRows
  | .inQuery _ query _ => query.laterals numbersRows
  | .compareQuery _ _ query => query.laterals numbersRows
  | _ => 0

def Subquery.laterals (numbersRows : Bool) : Subquery → Nat
  | .query q => q.laterals numbersRows
  | .raw _ _ => 0

def unionLaterals (numbersRows : Bool) : List Union → Nat
  | [] => 0
  | ⟨q, _⟩ :: rest => q.laterals numbersRows + unionLaterals numbersRows rest

end

theorem isLateral_bare (target : JoinTarget) : target.bare.isLateral = target.isLateral := by
  cases target <;> rfl

theorem isEmpty_bareClause (clause : Clause) : (bareClause clause).isEmpty = clause.isEmpty := by
  cases clause <;> rfl

theorem isEmpty_bareUnions (unions : List Union) : (bareUnions unions).isEmpty = unions.isEmpty := by
  cases unions with
  | nil => rfl
  | cons head rest =>
    cases head
    rfl

theorem Query.bucketOrder_bare (numbersRows : Bool) (q : Query) :
    q.bare.bucketOrder numbersRows = q.bucketOrder numbersRows := by
  cases q
  rfl

namespace Target

variable (t : Target) (p : Parts)

theorem clauseAfter_bare (keyword : String) (clause : Clause) (sql : Except Error Sql) :
    clauseAfter keyword (bareClause clause) sql = clauseAfter keyword clause sql := by
  simp only [clauseAfter, isEmpty_bareClause]

theorem sourceClause_bare (q : Query) : t.sourceClause q.bare p = t.sourceClause q p := by
  obtain ⟨_, _, _, source, _⟩ := q
  cases source with
  | none => rfl
  | some source => cases source <;> rfl

theorem components_bare (q : Query) : t.components q.bare p = t.components q p := by
  have source := t.sourceClause_bare p q
  unfold components
  rw [source]
  cases q
  simp only [Query.bare, clauseAfter_bare]
  rfl

theorem limitedGroups_bare (q : Query) (g : GroupLimit) : t.limitedGroups q.bare g p = t.limitedGroups q g p := by
  have numbered := t.components_bare p { q with groupLimit := none, offset := none }
  have counted := t.components_bare p
    { q with groupLimit := none, offset := none, orders := .column g.column .asc :: q.orders }
  cases q
  simp only [Query.bare] at numbered counted
  simp only [limitedGroups, numberedGroups, countedGroups, Query.bare, numbered, counted]

theorem assemble_bare (q : Query) : t.assemble q.bare p = t.assemble q p := by
  have rows (q : Query) : t.rows q.bare p = t.rows q p := by
    have components := t.components_bare p q
    have limited := t.limitedGroups_bare p q
    unfold Target.rows
    rw [components]
    cases q
    simp only [Query.bare, isEmpty_bareUnions] at limited ⊢
    split
    · exact limited _
    · rfl
  have direct := rows q
  have derived := rows { q with aggregate := none }
  unfold assemble
  rw [direct, ← derived]
  cases q
  simp only [Query.bare, aggregatesDerived, isEmpty_bareUnions, isEmpty_bareClause]
  rfl

end Target

mutual

theorem Query.sql_bare (t : Target) : ∀ q : Query, q.bare.sql t = q.sql t
  | ⟨_, columns, _, source, _, joins, wheres, _, havings, _, _, _, _, unions, _, _, _, _⟩ => by
    rw [Query.sql_eq_assemble, Query.sql_eq_assemble, Target.assemble_bare]
    simp only [Query.parts, Query.bare, Clause.sql, selectionSqls_bare t columns, sourceSql_bare t source,
      joinSqls_bare t joins, predicateSqls_bare t wheres, predicateSqls_bare t havings, unionSqls_bare t unions]

theorem selectionSqls_bare (t : Target) : ∀ items : List Selection,
    selectionSqls t (bareSelections items) = selectionSqls t items
  | [] => rfl
  | item :: rest => by
    simp only [bareSelections, selectionSqls, Selection.sql_bare t item, selectionSqls_bare t rest]

theorem Selection.sql_bare (t : Target) : ∀ item : Selection, item.bare.sql t = item.sql t
  | .column _ | .raw _ _ => rfl
  | .derived q _ => by simp only [Selection.bare, Selection.sql, Query.sql_bare t q]

theorem sourceSql_bare (t : Target) : ∀ source : Option Source, sourceSql t (bareSource source) = sourceSql t source
  | none => rfl
  | some source => Source.sql_bare t source

theorem Source.sql_bare (t : Target) : ∀ source : Source, source.bare.sql t = source.sql t
  | .table _ | .raw _ _ => rfl
  | .derived q _ => by simp only [Source.bare, Source.sql, Query.sql_bare t q]

theorem joinSqls_bare (t : Target) : ∀ joins : List Join, joinSqls t (bareJoins joins) = joinSqls t joins
  | [] => rfl
  | join :: rest => by simp only [bareJoins, joinSqls, Join.sql_bare t join, joinSqls_bare t rest]

theorem Join.sql_bare (t : Target) : ∀ join : Join, join.bare.sql t = join.sql t
  | ⟨_, target, on⟩ => by
    have conditions := predicateSqls_bare t on
    simp only [Join.bare, Join.sql, JoinTarget.sql_bare t target, isLateral_bare]
    by_cases lateral : target.isLateral
    · simp only [lateral, if_true]
    · simp only [lateral, if_false, Target.plainJoin, isEmpty_bareClause, conditions, Bool.false_eq_true]

theorem JoinTarget.sql_bare (t : Target) : ∀ target : JoinTarget, target.bare.sql t = target.sql t
  | .table _ => rfl
  | .derived q _ => by simp only [JoinTarget.bare, JoinTarget.sql, Query.sql_bare t q]
  | .lateral q _ => by simp only [JoinTarget.bare, JoinTarget.sql, Query.sql_bare t q]

theorem predicateSqls_bare (t : Target) : ∀ clause : List Predicate,
    predicateSqls t (bareClause clause) = predicateSqls t clause
  | [] => rfl
  | p :: rest => by simp only [bareClause, predicateSqls, Predicate.sql_bare t p, predicateSqls_bare t rest]

theorem Predicate.sql_bare (t : Target) : ∀ p : Predicate, p.bare.sql t = p.sql t
  | ⟨condition, _, _⟩ => by simp only [Predicate.bare, Predicate.sql, Condition.sql_bare t condition]

theorem Condition.sql_bare (t : Target) : ∀ condition : Condition, condition.bare.sql t = condition.sql t
  | .nested clause => by simp only [Condition.bare, Condition.sql, predicateSqls_bare t clause]
  | .hasRows query => by simp only [Condition.bare, Condition.sql, Subquery.sql_bare t query]
  | .inQuery _ query _ => by simp only [Condition.bare, Condition.sql, Subquery.sql_bare t query]
  | .compareQuery _ _ query => by simp only [Condition.bare, Condition.sql, Subquery.sql_bare t query]
  | .compare _ _ _ | .compareColumns _ _ _ | .raw _ _ | .isNull _ _ | .datePart _ _ _ _ | .inList _ _ _
  | .between _ _ _ _ | .betweenColumns _ _ _ _ | .compareRow _ _ _ | .jsonContains _ _ | .jsonHasKey _
  | .jsonLength _ _ _ | .fullText _ _ _ => rfl

theorem Subquery.sql_bare (t : Target) : ∀ query : Subquery, query.bare.sql t = query.sql t
  | .query q => Query.sql_bare t q
  | .raw _ _ => rfl

theorem unionSqls_bare (t : Target) : ∀ unions : List Union, unionSqls t (bareUnions unions) = unionSqls t unions
  | [] => rfl
  | ⟨q, _⟩ :: rest => by simp only [bareUnions, unionSqls, Query.sql_bare t q, unionSqls_bare t rest]

end

/-- The first list is the second without as many of its values. -/
structure Lacks (count : Nat) (values full : List Value) : Prop where
  sublist : values.Sublist full
  length_eq : full.length = values.length + count

namespace Lacks

theorem nothing (values : List Value) : Lacks 0 values values := ⟨.refl values, rfl⟩

theorem all (values : List Value) : Lacks values.length [] values := ⟨values.nil_sublist, by simp⟩

theorem append {m n : Nat} {values full values' full' : List Value} (first : Lacks m values full)
    (second : Lacks n values' full') : Lacks (m + n) (values ++ values') (full ++ full') := by
  refine ⟨first.sublist.append second.sublist, ?_⟩
  rw [List.length_append, List.length_append, first.length_eq, second.length_eq]
  omega

theorem eq {values full : List Value} (lacks : Lacks 0 values full) : values = full :=
  lacks.sublist.eq_of_length lacks.length_eq.symm

end Lacks

mutual

/-- A query binds more than the query with bare lateral joins by what their conditions bind. -/
theorem Query.bindings_bare (numbersRows : Bool) :
    ∀ q : Query, Lacks (q.laterals numbersRows) (q.bare.bindings numbersRows) (q.bindings numbersRows)
  | ⟨_, columns, _, source, _, joins, wheres, groups, havings, orders, _, _, groupLimit, unions, unionOrders, _, _,
      _⟩ => by
    have inColumns := selectionBindings_bare numbersRows columns
    have inSource := sourceBindings_bare numbersRows source
    have inJoins := joinBindings_bare numbersRows joins
    have inWheres := clauseBindings_bare numbersRows wheres
    have inHavings := clauseBindings_bare numbersRows havings
    have inUnions := unionBindings_bare numbersRows unions
    have inGroups := Lacks.nothing (groups.flatMap Grouping.bindings)
    have inOrders := Lacks.nothing (orders.flatMap Order.bindings)
    have inUnionOrders := Lacks.nothing (unionOrders.flatMap Order.bindings)
    rw [Query.bindings, Query.bindings, Query.bucketOrder_bare, Query.bucketOrder]
    split
    · rw [Query.flatten_numberedOrder, Query.flatten_numberedOrder]
      exact (((((((inColumns.append inOrders).append inSource).append inJoins).append inWheres).append
        inGroups).append inHavings).append inUnions).append inUnionOrders
    · rw [Query.flatten_usualOrder, Query.flatten_usualOrder]
      exact (((((((inColumns.append inSource).append inJoins).append inWheres).append inGroups).append
        inHavings).append inOrders).append inUnions).append inUnionOrders

theorem selectionBindings_bare (numbersRows : Bool) : ∀ items : List Selection,
    Lacks (selectionLaterals numbersRows items) (selectionBindings numbersRows (bareSelections items))
      (selectionBindings numbersRows items)
  | [] => .nothing []
  | item :: rest => (Selection.bindings_bare numbersRows item).append (selectionBindings_bare numbersRows rest)

theorem Selection.bindings_bare (numbersRows : Bool) : ∀ item : Selection,
    Lacks (item.laterals numbersRows) (item.bare.bindings numbersRows) (item.bindings numbersRows)
  | .column _ => .nothing []
  | .raw _ values => .nothing values
  | .derived q _ => Query.bindings_bare numbersRows q

theorem sourceBindings_bare (numbersRows : Bool) : ∀ source : Option Source,
    Lacks (sourceLaterals numbersRows source) (sourceBindings numbersRows (bareSource source))
      (sourceBindings numbersRows source)
  | none => .nothing []
  | some source => Source.bindings_bare numbersRows source

theorem Source.bindings_bare (numbersRows : Bool) : ∀ source : Source,
    Lacks (source.laterals numbersRows) (source.bare.bindings numbersRows) (source.bindings numbersRows)
  | .table _ => .nothing []
  | .raw _ values => .nothing values
  | .derived q _ => Query.bindings_bare numbersRows q

theorem joinBindings_bare (numbersRows : Bool) : ∀ joins : List Join,
    Lacks (joinLaterals numbersRows joins) (joinBindings numbersRows (bareJoins joins)) (joinBindings numbersRows joins)
  | [] => .nothing []
  | ⟨_, target, on⟩ :: rest => by
    have inTarget := JoinTarget.bindings_bare numbersRows target
    have inRest := joinBindings_bare numbersRows rest
    simp only [bareJoins, Join.bare, joinBindings, joinLaterals]
    split
    · exact (inTarget.append (.all _)).append inRest
    · exact (inTarget.append (clauseBindings_bare numbersRows on)).append inRest

theorem JoinTarget.bindings_bare (numbersRows : Bool) : ∀ target : JoinTarget,
    Lacks (target.laterals numbersRows) (target.bare.bindings numbersRows) (target.bindings numbersRows)
  | .table _ => .nothing []
  | .derived q _ | .lateral q _ => Query.bindings_bare numbersRows q

theorem clauseBindings_bare (numbersRows : Bool) : ∀ clause : List Predicate,
    Lacks (clauseLaterals numbersRows clause) (clauseBindings numbersRows (bareClause clause))
      (clauseBindings numbersRows clause)
  | [] => .nothing []
  | ⟨condition, _, _⟩ :: rest =>
    (Condition.bindings_bare numbersRows condition).append (clauseBindings_bare numbersRows rest)

theorem Condition.bindings_bare (numbersRows : Bool) : ∀ condition : Condition,
    Lacks (condition.laterals numbersRows) (condition.bare.bindings numbersRows) (condition.bindings numbersRows)
  | .nested clause => clauseBindings_bare numbersRows clause
  | .hasRows query => Subquery.bindings_bare numbersRows query
  | .inQuery _ query _ => Subquery.bindings_bare numbersRows query
  | .compareQuery _ _ query => Subquery.bindings_bare numbersRows query
  | .compare _ _ _ | .compareColumns _ _ _ | .raw _ _ | .isNull _ _ | .datePart _ _ _ _ | .inList _ _ _
  | .between _ _ _ _ | .betweenColumns _ _ _ _ | .compareRow _ _ _ | .jsonContains _ _ | .jsonHasKey _
  | .jsonLength _ _ _ | .fullText _ _ _ => .nothing _

theorem Subquery.bindings_bare (numbersRows : Bool) : ∀ query : Subquery,
    Lacks (query.laterals numbersRows) (query.bare.bindings numbersRows) (query.bindings numbersRows)
  | .query q => Query.bindings_bare numbersRows q
  | .raw _ values => .nothing values

theorem unionBindings_bare (numbersRows : Bool) : ∀ unions : List Union,
    Lacks (unionLaterals numbersRows unions) (unionBindings numbersRows (bareUnions unions))
      (unionBindings numbersRows unions)
  | [] => .nothing []
  | ⟨q, _⟩ :: rest => (Query.bindings_bare numbersRows q).append (unionBindings_bare numbersRows rest)

end

end SqlCompiler
