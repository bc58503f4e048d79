import SqlCompiler.Proofs.Erasure.Texts

namespace SqlCompiler

theorem Operand.text_erase (value : Operand) : value.erase.sql.text = value.sql.text := by
  cases value <;> rfl

theorem parameters_text_erase (values : List Operand) :
    (parameters (values.map Operand.erase)).text = (parameters values).text := by
  simp only [parameters, Sql.text_join, List.map_map, Function.comp_def, Operand.text_erase]

namespace Target

variable (t : Target)

theorem comparison_erase (column : String) (op : Operator) (value : Operand) :
    (t.comparison column op value.erase).SameText (t.comparison column op value) := by
  unfold comparison Sql.SameText
  repeat' split
  all_goals simp [Operand.text_erase]

theorem membership_erase (column : String) (values : List Operand) (negated : Bool) :
    (t.membership column (values.map Operand.erase) negated).SameText (t.membership column values negated) := by
  unfold membership Sql.SameText
  rw [List.isEmpty_map]
  repeat' split
  all_goals simp [parameters_text_erase]

theorem datePartComparison_erase (column : String) (part : DatePart) (op : Operator) (value : Operand) :
    (t.datePartComparison column part op value.erase).SameText (t.datePartComparison column part op value) := by
  unfold datePartComparison Sql.SameText
  split <;> simp [Operand.text_erase]

theorem jsonContains_agree (column : String) (document document' : Json) :
    Agree Sql.SameText (t.jsonContains column document) (t.jsonContains column document') := by
  unfold jsonContains
  simp only
  split
  · exact .ok (by simp [Sql.SameText])
  · split <;> exact .ok (by simp [Sql.SameText])
  · exact .ok (by simp [Sql.SameText])
  · exact .error _

theorem fullText_agree (columns : List String) (terms terms' : String) (options : FullTextOptions) :
    Agree Sql.SameText (t.fullText columns terms options) (t.fullText columns terms' options) := by
  unfold fullText
  simp only
  split
  · exact (Agree.refl (R := Eq) (fun _ => rfl) _).map fun mode mode' same => by simp [Sql.SameText, same]
  · exact .ok (by simp [Sql.SameText])
  · exact .error _
  · exact .error _

theorem order_erase (order : Order) : (t.order order.erase).text = (t.order order).text := by
  cases order <;> simp [Order.erase, Target.order]

theorem orderBy_erase (orders : List Order) : (t.orderBy (orders.map Order.erase)).text = (t.orderBy orders).text := by
  simp only [orderBy, List.isEmpty_map]
  split
  · rfl
  · simp only [Sql.text_append, Sql.text_join, List.map_map, Function.comp_def, order_erase]

theorem groupBy_erase (groups : List Grouping) :
    (t.groupBy (groups.map Grouping.erase)).text = (t.groupBy groups).text := by
  have each (group : Grouping) : (t.grouping group.erase).text = (t.grouping group).text := by
    cases group <;> simp [Grouping.erase, grouping]
  simp only [groupBy, List.isEmpty_map]
  split
  · rfl
  · simp only [Sql.text_append, Sql.text_join, List.map_map, Function.comp_def, each]

end Target

structure Parts.SameText (p p' : Parts) : Prop where
  columns : Agree Sql.SameTexts p.columns p'.columns
  source : Agree Sql.SameText p.source p'.source
  joins : Agree Sql.SameTexts p.joins p'.joins
  wheres : Agree Sql.SameText p.wheres p'.wheres
  havings : Agree Sql.SameText p.havings p'.havings
  unions : Agree Sql.SameTexts p.unions p'.unions

structure Components.SameText (c c' : Components) : Prop where
  aggregate : c.aggregate.text = c'.aggregate.text
  columns : c.columns.text = c'.columns.text
  source : c.source.text = c'.source.text
  indexHint : c.indexHint.text = c'.indexHint.text
  joins : c.joins.text = c'.joins.text
  wheres : c.wheres.text = c'.wheres.text
  groups : c.groups.text = c'.groups.text
  havings : c.havings.text = c'.havings.text
  orders : c.orders.text = c'.orders.text
  paging : c.paging.map Sql.text = c'.paging.map Sql.text
  lock : c.lock.text = c'.lock.text

theorem Components.SameText.sql {c c' : Components} (same : c.SameText c') : c.sql.SameText c'.sql := by
  apply Sql.SameTexts.concat
  simp only [Sql.SameTexts, named, List.map_append, List.map_cons, List.map_nil, List.map_map, Function.comp_def,
    same.aggregate, same.columns, same.source, same.indexHint, same.joins, same.wheres, same.groups, same.havings,
    same.orders, same.lock]
  rw [show c.paging.map (fun s => s.text) = c'.paging.map fun s => s.text from same.paging]

namespace Query

variable (q : Query)

@[simp]
theorem erase_aggregate : q.erase.aggregate = q.aggregate := by cases q; rfl

@[simp]
theorem erase_source : q.erase.source = eraseSource q.source := by cases q; rfl

@[simp]
theorem erase_indexHint : q.erase.indexHint = q.indexHint := by cases q; rfl

@[simp]
theorem erase_joins : q.erase.joins = eraseJoins q.joins := by cases q; rfl

@[simp]
theorem erase_wheres : q.erase.wheres = eraseClause q.wheres := by cases q; rfl

@[simp]
theorem erase_groups : q.erase.groups = q.groups.map Grouping.erase := by cases q; rfl

@[simp]
theorem erase_havings : q.erase.havings = eraseClause q.havings := by cases q; rfl

@[simp]
theorem erase_orders : q.erase.orders = q.orders.map Order.erase := by cases q; rfl

@[simp]
theorem erase_offset : q.erase.offset = q.offset := by cases q; rfl

@[simp]
theorem erase_limit : q.erase.limit = q.limit := by cases q; rfl

@[simp]
theorem erase_groupLimit : q.erase.groupLimit = q.groupLimit := by cases q; rfl

@[simp]
theorem erase_unions : q.erase.unions = eraseUnions q.unions := by cases q; rfl

@[simp]
theorem erase_unionOrders : q.erase.unionOrders = q.unionOrders.map Order.erase := by cases q; rfl

@[simp]
theorem erase_lock : q.erase.lock = q.lock := by cases q; rfl

end Query

theorem clauseAfter_agree (keyword : String) (clause : Clause) {sql sql' : Except Error Sql}
    (same : Agree Sql.SameText sql sql') :
    Agree Sql.SameText (Target.clauseAfter keyword (eraseClause clause) sql)
      (Target.clauseAfter keyword clause sql') := by
  simp only [Target.clauseAfter, isEmpty_eraseClause]
  split
  · exact .ok rfl
  · exact same.map fun a b text => text.after _

namespace Target

theorem rowNumber_text (t : Target) (column : String) {orders orders' : Sql} (same : orders.SameText orders') :
    (t.rowNumber column orders).SameText (t.rowNumber column orders') := by
  -- Whether there is an order is read off its text.
  have empty : orders.isEmpty = orders'.isEmpty := by
    unfold Sql.isEmpty
    rw [same]
  unfold rowNumber
  refine Sql.SameText.before (Sql.SameText.before (Sql.SameText.after ?_ _) _) _
  split
  · rw [empty]
    apply Sql.SameText.after
    split
    · rfl
    · exact same
  · rw [Sql.SameText, Sql.text_trimEnd, Sql.text_trimEnd, same.after]

section

variable (t : Target) (q : Query) {p p' : Parts} (same : p.SameText p')
include same

theorem selectList_agree : Agree Sql.SameText (t.selectList q.erase p) (t.selectList q p') := by
  have keyword : t.selectKeyword q.erase = t.selectKeyword q := by
    cases q
    rfl
  simp only [selectList, keyword, Query.erase_aggregate]
  split
  · exact .ok rfl
  · apply same.columns.map
    intro a b texts
    have empty : a.isEmpty = b.isEmpty := by
      rw [← List.isEmpty_map, texts, List.isEmpty_map]
    rw [empty]
    split
    · rfl
    · exact (texts.join ", ").after _

theorem sourceClause_agree : Agree Sql.SameText (t.sourceClause q.erase p) (t.sourceClause q p') := by
  have table (name : String) : t.sourceTable q.erase name = t.sourceTable q name := by
    cases q
    rfl
  unfold sourceClause
  rw [Query.erase_source]
  cases q.source with
  | none => exact .ok rfl
  | some source =>
    cases source with
    | table name => exact .ok (congrArg Sql.text (table name))
    | raw sql values => exact .ok (by simp [Sql.SameText])
    | derived rows label => exact same.source.map fun a b text => text.after _

theorem components_agree : Agree Components.SameText (t.components q.erase p) (t.components q p') := by
  have aggregate : t.aggregate q.erase = t.aggregate q := by
    cases q
    rfl
  have paging : t.queryPaging q.erase = t.queryPaging q := by
    cases q
    rfl
  have order : (t.queryOrder q.erase).text = (t.queryOrder q).text := by
    simp only [queryOrder, Query.erase_orders, Query.erase_offset, List.isEmpty_map]
    split
    · rfl
    · exact t.orderBy_erase q.orders
  unfold components
  apply (t.selectList_agree q same).bind
  intro columns columns' sameColumns
  apply (t.sourceClause_agree q same).bind
  intro source source' sameSource
  apply same.joins.bind
  intro joins joins' sameJoins
  rw [Query.erase_wheres, Query.erase_havings]
  apply (clauseAfter_agree "WHERE" q.wheres same.wheres).bind
  intro wheres wheres' sameWheres
  apply (clauseAfter_agree "HAVING" q.havings same.havings).map
  intro havings havings' sameHavings
  exact {
    aggregate := by rw [aggregate]
    columns := sameColumns
    source := sameSource
    indexHint := by rw [Query.erase_indexHint]
    joins := sameJoins.join " "
    wheres := sameWheres
    groups := by rw [Query.erase_groups]; exact t.groupBy_erase q.groups
    havings := sameHavings
    orders := order
    paging := by rw [paging]
    lock := by rw [Query.erase_lock] }

theorem numberedGroups_agree (g : GroupLimit) :
    Agree Sql.SameText (t.numberedGroups q.erase g p) (t.numberedGroups q g p') := by
  have inner : Agree Components.SameText (t.components { q.erase with groupLimit := none, offset := none } p)
      (t.components { q with groupLimit := none, offset := none } p') := by
    have single := t.components_agree { q with groupLimit := none, offset := none } same
    cases q
    exact single
  unfold numberedGroups
  rw [Query.erase_offset]
  apply inner.map
  intro c c' texts
  have numbered : Components.SameText
      { c with columns := c.columns ++ t.rowNumber g.column c.orders, orders := .empty }
      { c' with columns := c'.columns ++ t.rowNumber g.column c'.orders, orders := .empty } :=
    { texts with
      columns := Sql.SameText.append texts.columns (t.rowNumber_text g.column texts.orders)
      orders := rfl }
  exact ((((numbered.sql.after _).before _).before _).before _).before _

theorem countedGroups_agree (g : GroupLimit) :
    Agree Sql.SameText (t.countedGroups q.erase g p) (t.countedGroups q g p') := by
  have inner : Agree Components.SameText
      (t.components { q.erase with
        groupLimit := none, offset := none, orders := .column g.column .asc :: q.erase.orders } p)
      (t.components { q with groupLimit := none, offset := none, orders := .column g.column .asc :: q.orders } p') := by
    have single := t.components_agree
      { q with groupLimit := none, offset := none, orders := .column g.column .asc :: q.orders } same
    cases q
    exact single
  unfold countedGroups
  rw [Query.erase_offset]
  apply inner.map
  intro c c' texts
  exact ((((texts.sql.after _).before _).before _).before _).before _

theorem limitedGroups_agree (g : GroupLimit) :
    Agree Sql.SameText (t.limitedGroups q.erase g p) (t.limitedGroups q g p') := by
  unfold limitedGroups
  split
  · exact .error _
  · split
    · exact t.numberedGroups_agree q same g
    · exact t.countedGroups_agree q same g

omit same in
theorem unionMember_text {a b : Sql} (text : a.SameText b) : (t.unionMember a).SameText (t.unionMember b) := by
  unfold unionMember
  split
  · exact (text.after _).before _
  · exact (text.after _).before _
  · exact (text.after _).before _
  · exact ((text.after _).before _).before _

omit same in
theorem unionTail_text {as bs : List Sql} (texts : Sql.SameTexts as bs) :
    (t.unionTail q.erase as).SameText (t.unionTail q bs) := by
  have paging : t.unionPaging q.erase = t.unionPaging q := by
    simp only [unionPaging, Query.erase_unionOrders, List.isEmpty_map]
    cases q
    rfl
  have orders : Sql.SameTexts
      (if q.erase.unionOrders.isEmpty then [] else [t.orderBy q.erase.unionOrders])
      (if q.unionOrders.isEmpty then [] else [t.orderBy q.unionOrders]) := by
    rw [Query.erase_unionOrders, List.isEmpty_map]
    split
    · rfl
    · simp only [Sql.SameTexts, List.map_cons, List.map_nil, orderBy_erase]
  unfold unionTail
  rw [paging]
  exact ((texts.append orders).append rfl).join " "

theorem rows_agree : Agree Sql.SameText (t.rows q.erase p) (t.rows q p') := by
  unfold rows
  rw [Query.erase_groupLimit]
  cases q.groupLimit with
  | some g => exact t.limitedGroups_agree q same g
  | none =>
    apply (t.components_agree q same).bind
    intro c c' texts
    rw [Query.erase_unions, isEmpty_eraseUnions]
    split
    · exact .pure texts.sql
    · apply same.unions.map
      intro members members' sameMembers
      exact ((t.unionMember_text texts.sql).before _).append (t.unionTail_text q sameMembers)

theorem assemble_agree : Agree Sql.SameText (t.assemble q.erase p) (t.assemble q p') := by
  have derived : aggregatesDerived q.erase = aggregatesDerived q := by
    simp only [aggregatesDerived, Query.erase_aggregate, Query.erase_unions, isEmpty_eraseUnions, Query.erase_havings,
      isEmpty_eraseClause, Query.erase_groupLimit]
  have aggregate : t.aggregate q.erase = t.aggregate q := by
    cases q
    rfl
  have inner : Agree Sql.SameText (t.rows { q.erase with aggregate := none } p)
      (t.rows { q with aggregate := none } p') := by
    have single := t.rows_agree { q with aggregate := none } same
    cases q
    exact single
  unfold assemble
  rw [derived, aggregate]
  split
  · apply inner.map
    intro a b text
    exact ((text.after _).before _).before _
  · exact t.rows_agree q same

end

end Target

end SqlCompiler
