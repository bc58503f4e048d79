import SqlCompiler.Proofs.Conditions.WholeQueries

namespace SqlCompiler

structure Parts.Closed (d : Dialect) (p : Parts) : Prop where
  columns : Compiles (fun parts => ∀ part ∈ parts, part.Closed d) p.columns
  source : Compiles (Sql.Closed d) p.source
  joins : Compiles (fun parts => ∀ part ∈ parts, part.Closed d) p.joins
  wheres : Compiles (Sql.Closed d) p.wheres
  havings : Compiles (Sql.Closed d) p.havings
  unions : Compiles (fun parts => ∀ part ∈ parts, part.Closed d) p.unions

structure Components.Closed (d : Dialect) (c : Components) : Prop where
  aggregate : c.aggregate.Closed d
  columns : c.columns.Closed d
  source : c.source.Closed d
  indexHint : c.indexHint.Closed d
  joins : c.joins.Closed d
  wheres : c.wheres.Closed d
  groups : c.groups.Closed d
  havings : c.havings.Closed d
  orders : c.orders.Closed d
  paging : ∀ part ∈ c.paging, part.Closed d
  lock : c.lock.Closed d

theorem Components.Closed.sql {d : Dialect} {c : Components} (closed : c.Closed d) : c.sql.Closed d := by
  refine .concat fun part member => ?_
  simp only [Components.named, List.map_append, List.map_cons, List.map_nil, List.map_map, Function.comp_def,
    List.map_id', List.mem_append, List.mem_cons, List.not_mem_nil, or_false] at member
  rcases member with (fixed | page) | rfl
  · rcases fixed with rfl | rfl | rfl | rfl | rfl | rfl | rfl | rfl | rfl
    · exact closed.aggregate
    · exact closed.columns
    · exact closed.source
    · exact closed.indexHint
    · exact closed.joins
    · exact closed.wheres
    · exact closed.groups
    · exact closed.havings
    · exact closed.orders
  · exact closed.paging part page
  · exact closed.lock

theorem Query.Whole.withoutAggregate {t : Target} {q : Query} (whole : q.Whole t) :
    Query.Whole t { q with aggregate := none } := by
  obtain ⟨_, columns, distinct, source, joins, on, wheres, groups, havings, orders, limit, unions, unionOrders, lock⟩ :=
    whole
  exact .intro (by simp) columns distinct source joins on wheres groups havings orders limit unions unionOrders lock

theorem Query.Whole.withoutGroupLimit {t : Target} {q : Query} (whole : q.Whole t) {orders : List Order}
    (ordered : ∀ order ∈ orders, order.Whole t) :
    Query.Whole t { q with groupLimit := none, offset := none, orders } := by
  obtain ⟨aggregate, columns, distinct, source, joins, on, wheres, groups, havings, _, _, unions, unionOrders, lock⟩ :=
    whole
  exact .intro aggregate columns distinct source joins on wheres groups havings ordered (by simp) unions unionOrders
    lock

theorem joinConditions_closed {d : Dialect} {tests : List (Conjunction × Sql)} (all : ∀ test ∈ tests, test.2.Closed d) :
    (joinConditions tests).Closed d := by
  fun_induction joinConditions tests with
  | case1 => exact .empty
  | case2 word sql => exact all (word, sql) (by simp)
  | case3 first sql word next rest ih =>
    have conjunction : (Sql.ofText word.sql).Closed d := by cases word <;> exact .words rfl
    have head : sql.Closed d := all (first, sql) (by simp)
    have tail := ih fun test member => all test (List.mem_cons_of_mem _ member)
    exact (((head.append (.words rfl)).append conjunction).append (.words rfl)).append tail

namespace Target

section

variable {t : Target}

theorem components_closed {q : Query} {p : Parts} (whole : q.Whole t) (parts : p.Closed t.dialect) :
    Compiles (Components.Closed t.dialect) (t.components q p) := by
  obtain ⟨aggregate, _, distinct, source, _, _, _, groups, _, orders, _, _, _, lock⟩ := whole
  unfold components
  apply (selectList_closed distinct parts.columns).bind
  intro columns columnsClosed
  apply (sourceClause_closed source lock parts.source).bind
  intro source sourceClosed
  apply parts.joins.bind
  intro joins joinsClosed
  apply (clauseAfter_closed (.words rfl) parts.wheres).bind
  intro wheres wheresClosed
  apply (clauseAfter_closed (.words rfl) parts.havings).map
  intro havings havingsClosed
  exact {
    aggregate := aggregate_closed aggregate
    columns := columnsClosed
    source := sourceClosed
    indexHint := by
      cases q.indexHint with
      | none => exact .empty
      | some hint => exact .ofText (t.indexHint_closed hint)
    joins := .join rfl joinsClosed
    wheres := wheresClosed
    groups := groupBy_closed groups
    havings := havingsClosed
    orders := queryOrder_closed orders
    paging := by
      intro part member
      obtain ⟨word, inPaging, rfl⟩ := List.mem_map.mp member
      exact .ofText (t.queryPaging_closed q word inPaging)
    lock := by
      cases found : q.lock with
      | none => exact .empty
      | some lock' => exact .ofText (lockClause_closed (lock lock' found)) }

theorem rowNumber_closed {column : String} {orders : Sql} (shelters : t.Shelters column)
    (ordered : orders.Closed t.dialect) : (t.rowNumber column orders).Closed t.dialect := by
  have partition : (Sql.ofText "PARTITION BY " ++ Sql.ofText (t.column column) ++ Sql.ofText " ").Closed t.dialect :=
    ((Sql.Closed.words rfl).append (.ofText (column_spans shelters))).append (.words rfl)
  have numbered (window : Sql) (inside : window.Closed t.dialect) :
      (Sql.ofText ", ROW_NUMBER() OVER (" ++ window ++ Sql.ofText ") AS " ++
        Sql.ofText (t.dialect.quoteName "group_row")).Closed t.dialect :=
    (inside.within (n := 0) rfl rfl).append (.ofText (quoteName_spans _))
  unfold rowNumber
  apply numbered
  split
  · refine partition.append ?_
    split
    · exact .ofText (anyOrder_closed t.dialect)
    · exact ordered
  · have window := partition.append ordered
    rw [Sql.Closed, Sql.text_trimEnd]
    exact window.trimEnd

theorem rowRange_closed (g : GroupLimit) (offset : Option UInt64) : t.dialect.Closed (t.rowRange g offset) := by
  have row : t.dialect.Closed (t.dialect.quoteName "group_row") := quoteName_spans "group_row"
  have upTo : t.dialect.Closed (t.dialect.quoteName "group_row" ++ " <= " ++ toString (lastRow g offset)) :=
    (row.beside (.words (j := 0) rfl)).beside (Nat.toString_spans _)
  cases offset with
  | none => exact ((upTo.beside .empty).beside (.words (j := 0) rfl)).beside row
  | some m =>
    have after : t.dialect.Closed (" AND " ++ t.dialect.quoteName "group_row" ++ " > " ++ toString m.toNat) :=
      (((Dialect.Spans.words (j := 0) rfl).beside row).beside (.words (j := 0) rfl)).beside (Nat.toString_spans _)
    exact ((upTo.beside after).beside (.words (j := 0) rfl)).beside row

theorem numberedGroups_closed {q : Query} {g : GroupLimit} {p : Parts} (whole : q.Whole t)
    (shelters : t.Shelters g.column) (parts : p.Closed t.dialect) :
    Compiles (Sql.Closed t.dialect) (t.numberedGroups q g p) := by
  have orders : ∀ order ∈ q.orders, order.Whole t := by
    cases whole
    assumption
  have range : (Sql.ofText (t.rowRange g q.offset)).Closed t.dialect := .ofText (rowRange_closed g q.offset)
  unfold numberedGroups
  apply (components_closed (whole.withoutGroupLimit orders) parts).map
  intro c closed
  have numbered := { closed with
    columns := closed.columns.append (rowNumber_closed shelters closed.orders)
    orders := Sql.Closed.empty : Components.Closed t.dialect
      { c with columns := c.columns ++ t.rowNumber g.column c.orders, orders := .empty } }
  exact (((numbered.sql.within (n := 0) rfl rfl).append (.ofText (quoteName_spans _))).append (.words rfl)).append range

theorem countedGroups_closed {q : Query} {g : GroupLimit} {p : Parts} (whole : q.Whole t)
    (shelters : t.Shelters g.column) (parts : p.Closed t.dialect) :
    Compiles (Sql.Closed t.dialect) (t.countedGroups q g p) := by
  have ordered : ∀ order ∈ Order.column g.column .asc :: q.orders, order.Whole t := by
    rw [List.forall_mem_cons]
    refine ⟨shelters, ?_⟩
    cases whole
    assumption
  have name (s : String) : t.dialect.Closed (t.dialect.quoteName s) := quoteName_spans s
  have counted : t.dialect.Closed ("SELECT " ++ t.dialect.quoteName "group_table" ++
      ".*, @group_row := IF(@group_key = " ++ t.dialect.quoteName (Text.lastPart '.' g.column) ++
      ", @group_row + 1, 1) AS " ++ t.dialect.quoteName "group_row") :=
    (((((Dialect.Spans.words (j := 0) rfl).beside (name _)).beside (.words (j := 1) rfl)).holding (name _)).beside
      (.words (j := 0) rfl)).beside (name _)
  unfold countedGroups
  apply (components_closed (whole.withoutGroupLimit ordered) parts).map
  intro c closed
  have inner := closed.sql
  simp only [Sql.Closed, Sql.text_append, Sql.text_ofText] at inner ⊢
  have keyed : t.dialect.Closed ("SELECT " ++ t.dialect.quoteName "group_table" ++
      ".*, @group_row := IF(@group_key = " ++ t.dialect.quoteName (Text.lastPart '.' g.column) ++
      ", @group_row + 1, 1) AS " ++ t.dialect.quoteName "group_row" ++ ", @group_key := " ++
      t.dialect.quoteName (Text.lastPart '.' g.column) ++ " FROM (SELECT @group_row := 0, @group_key := 0) AS ") :=
    ((counted.beside (.words (j := 0) rfl)).beside (name _)).beside (.words rfl)
  have named := keyed.beside (name "group_variables")
  exact (((((named.beside (.words (j := 1) rfl)).holding inner).beside (.words (j := 0) rfl)).beside
    (name "group_table")).beside (.words (j := 0) rfl)).beside (rowRange_closed g q.offset)

theorem limitedGroups_closed {q : Query} {g : GroupLimit} {p : Parts} (whole : q.Whole t)
    (shelters : t.Shelters g.column) (parts : p.Closed t.dialect) :
    Compiles (Sql.Closed t.dialect) (t.limitedGroups q g p) := by
  unfold limitedGroups
  split
  · exact Compiles.unsupported t _
  · split
    · exact numberedGroups_closed whole shelters parts
    · exact countedGroups_closed whole shelters parts

theorem unionMember_closed {sql : Sql} (closed : sql.Closed t.dialect) : (t.unionMember sql).Closed t.dialect := by
  unfold unionMember
  split
  · exact closed.within (n := 0) rfl rfl
  · exact closed.within (n := 0) rfl rfl
  · exact closed.within (n := 0) rfl rfl
  · exact (closed.within (n := 0) rfl rfl).append (.ofText (table_spans _))

theorem unionTail_closed {q : Query} {members : List Sql} (orders : ∀ order ∈ q.unionOrders, order.Whole t)
    (all : ∀ member ∈ members, member.Closed t.dialect) : (t.unionTail q members).Closed t.dialect := by
  refine .join rfl ?_
  rw [List.forall_mem_append, List.forall_mem_append]
  refine ⟨⟨all, ?_⟩, ?_⟩
  · split
    · simp
    · simpa using orderBy_closed orders
  · intro part member
    obtain ⟨word, inPaging, rfl⟩ := List.mem_map.mp member
    exact .ofText (t.unionPaging_closed q word inPaging)

theorem rows_closed {q : Query} {p : Parts} (whole : q.Whole t) (parts : p.Closed t.dialect) :
    Compiles (Sql.Closed t.dialect) (t.rows q p) := by
  have limit : ∀ g ∈ q.groupLimit, t.Shelters g.column := by
    cases whole
    assumption
  have unionOrders : ∀ order ∈ q.unionOrders, order.Whole t := by
    cases whole
    assumption
  unfold rows
  split
  · rename_i g found
    exact limitedGroups_closed whole (limit g found) parts
  · apply (components_closed whole parts).bind
    intro c closed
    split
    · exact .ok closed.sql
    · apply parts.unions.map
      intro members all
      exact ((unionMember_closed closed.sql).append (.words rfl)).append (unionTail_closed unionOrders all)

theorem assemble_closed {q : Query} {p : Parts} (whole : q.Whole t) (parts : p.Closed t.dialect) :
    Compiles (Sql.Closed t.dialect) (t.assemble q p) := by
  have aggregate : ∀ a ∈ q.aggregate, ∀ name ∈ a.columns, t.Shelters name := by
    cases whole
    assumption
  unfold assemble
  split
  · apply (rows_closed whole.withoutAggregate parts).map
    intro rows closed
    simp only [Sql.Closed, Sql.text_append, Sql.text_ofText]
    exact ((((aggregate_closed aggregate).beside (.words (j := 1) rfl)).holding closed).beside
      (.words (j := 0) rfl)).beside (table_spans _)
  · exact rows_closed whole parts

end

end Target

theorem Target.derivedTable_closed {t : Target} {rows : Sql} {label : String} (closed : rows.Closed t.dialect) :
    (t.derivedTable rows label).Closed t.dialect := (closed.within (n := 0) rfl rfl).append (.ofText (table_spans _))

theorem plainJoin_closed {t : Target} {kind : JoinKind} {target : Sql} {on : Clause} {conditions : Except Error Sql}
    (closed : target.Closed t.dialect) (tests : Compiles (Sql.Closed t.dialect) conditions) :
    Compiles (Sql.Closed t.dialect) (Target.plainJoin kind target on conditions) := by
  have joined : (Sql.ofText kind.sql ++ Sql.ofText " JOIN " ++ target).Closed t.dialect :=
    ((Sql.Closed.ofText (JoinKind.sql_closed t.dialect _)).append (.words rfl)).append closed
  unfold Target.plainJoin
  split
  · exact .ok joined
  · exact tests.map fun rows holds => (joined.append (.words rfl)).append holds

theorem lateralJoin_closed {t : Target} {kind : JoinKind} {target : Sql} (closed : target.Closed t.dialect) :
    Compiles (Sql.Closed t.dialect) (t.lateralJoin kind target) := by
  unfold Target.lateralJoin
  split
  · exact Compiles.unsupported t _
  · split
    · exact .ok ((Sql.Closed.words rfl).append closed)
    · exact .ok ((Sql.Closed.words rfl).append closed)
    · exact .ok ((Sql.Closed.words rfl).append closed)
    · exact Compiles.unsupported t _
    · exact .ok ((((Sql.Closed.ofText (JoinKind.sql_closed t.dialect _)).append (.words rfl)).append closed).append
        (.words rfl))

theorem Dialect.Spans.betweenNot {d : Dialect} {alone : Bool} {column low high : String}
    (first : d.Spans alone 0 column 0) (negated : Bool) (lower : d.Spans alone 0 low 0)
    (upper : d.Spans alone 0 high 0) :
    d.Spans alone 0 (column ++ " " ++ notWord negated ++ "BETWEEN " ++ low ++ " AND " ++ high) 0 := by
  cases negated with
  | false =>
    have words : column ++ " " ++ notWord false ++ "BETWEEN " = column ++ " BETWEEN " := by
      rw [String.append_assoc, String.append_assoc]
      rfl
    rw [words]
    exact first.between (by cases d <;> rfl) (by cases d <;> rfl) rfl lower upper
  | true =>
    have words : column ++ " " ++ notWord true ++ "BETWEEN " = column ++ " NOT BETWEEN " := by
      rw [String.append_assoc, String.append_assoc]
      rfl
    rw [words]
    exact first.between (by cases d <;> rfl) (by cases d <;> rfl) rfl lower upper

theorem Condition.Whole.sql_stands {t : Target} {alone : Bool} {c : Condition} (whole : c.Whole t alone)
    (subqueries : ∀ query ∈ c.subquery?, Compiles (Sql.Closed t.dialect) (query.sql t))
    (clause : ∀ inner, c = .nested inner → Compiles (fun tests => ∀ test ∈ tests, test.2.Closed t.dialect)
      (predicateSqls t inner)) :
    Compiles (fun s => t.dialect.Stands alone s.text) (c.sql t) := by
  obtain ⟨shelters, fits, fragment, _, _⟩ := whole
  have checked {P : Sql → Prop} (op : Operator) {s : Sql} (holds : P s) :
      Compiles P (t.check op >>= fun _ => Pure.pure s) := (Compiles.check t op).bind fun _ _ => .pure holds
  have name {column : String} (named : column ∈ c.columns) : t.dialect.Spans alone 0 (t.column column) 0 :=
    Target.column_spans (shelters column named)
  have operand {value : Operand} (compared : value ∈ c.operands) : t.dialect.Spans alone 0 value.sql.text 0 :=
    Operand.sql_spans (fits value compared)
  cases c with
  | compare column op value =>
    exact checked op (Target.comparison_stands (shelters column (by simp [columns]))
      (fits value (by simp [operands])) op)
  | compareColumns first op second =>
    apply checked op
    simp only [Sql.text_append, Sql.text_ofText]
    have tested : t.dialect.Spans alone 0 (t.column first) 0 := name (by simp [columns])
    have other : t.dialect.Spans alone 0 (t.column second) 0 := name (by simp [columns])
    exact ((tested.compared op).link other rfl).stands
      (((((t.column_opens first).append _).append _).append _).append _)
  | raw sql values =>
    refine .ok ?_
    rw [Sql.text_raw]
    exact fragment sql values rfl
  | nested inner =>
    apply (clause inner rfl).map
    intro tests closed
    simp only [Sql.text_append, Sql.text_ofText]
    exact (Dialect.Spans.argument 0 (joinConditions_closed closed) rfl).stands (((Opens.chars rfl).append _).append _)
  | hasRows query =>
    apply (subqueries query rfl).map
    intro rows closed
    simp only [Sql.text_append, Sql.text_ofText]
    exact (Dialect.Spans.argument 0 closed rfl).stands (((Opens.chars rfl).append _).append _)
  | isNull column negated =>
    refine .ok ?_
    simp only [Sql.text_append, Sql.text_ofText]
    have tested : t.dialect.Spans alone 0 (t.column column) 0 := name (by simp [columns])
    exact (tested.linkNot negated (.plain rfl) rfl).stands
      ((((t.column_opens column).append _).append _).append _)
  | datePart column part op value =>
    exact checked op (Target.datePartComparison_stands (shelters column (by simp [columns]))
      (fits value (by simp [operands])) part op)
  | inList column values negated =>
    exact .ok (Target.membership_stands (shelters column (by simp [columns])) fits negated)
  | inQuery column query negated =>
    apply (subqueries query rfl).map
    intro rows closed
    simp only [Sql.text_append, Sql.text_ofText]
    have tested : t.dialect.Spans alone 0 (t.column column ++ " " ++ notWord negated ++ "IN (") 1 :=
      (name (by simp [columns])).linkNot negated (.plain rfl) rfl
    exact ((tested.holding closed).beforePlain rfl).stands
      ((((((t.column_opens column).append _).append _).append _).append _).append _)
  | between column low high negated =>
    refine .ok ?_
    simp only [Sql.text_append, Sql.text_ofText]
    exact (Dialect.Spans.betweenNot (name (by simp [columns])) negated (operand (by simp [operands]))
      (operand (by simp [operands]))).stands
      (((((((t.column_opens column).append _).append _).append _).append _).append _).append _)
  | betweenColumns column low high negated =>
    refine .ok ?_
    simp only [Sql.text_append, Sql.text_ofText]
    exact (Dialect.Spans.betweenNot (name (by simp [columns])) negated (name (by simp [columns]))
      (name (by simp [columns]))).stands
      (((((((t.column_opens column).append _).append _).append _).append _).append _).append _)
  | compareQuery column op query =>
    apply (Compiles.check t op).bind
    intro _ _
    apply (subqueries query rfl).map
    intro rows closed
    simp only [Sql.text_append, Sql.text_ofText]
    have tested : t.dialect.Spans alone 0 (t.column column ++ " " ++ op.sql) 0 := (name (by simp [columns])).compared op
    exact (((tested.beforePlain (k := 1) rfl).holding closed).beforePlain rfl).stands
      ((((((t.column_opens column).append _).append _).append _).append _).append _)
  | compareRow columns op values =>
    apply checked op
    simp only [Sql.text_append, Sql.text_ofText]
    have names : t.dialect.Closed (t.columns columns) := Target.columns_spans shelters
    have listed : t.dialect.Closed (parameters values).text := (parameters_spans fits).closed
    have tested : t.dialect.Spans alone 0 ("(" ++ t.columns columns ++ ") " ++ op.sql) 0 :=
      ((Dialect.Spans.plain (j := 1) rfl).holding names).link op.sql_spans rfl
    exact (((tested.beforePlain (k := 1) rfl).holding listed).beforePlain rfl).stands
      (((((((Opens.chars rfl).append _).append _).append _).append _).append _).append _)
  | jsonContains column document => exact Target.jsonContains_stands (shelters column (by simp [columns])) document
  | jsonHasKey column =>
    apply (Target.jsonHasKey_stands (shelters column (by simp [columns]))).map
    intro test stands
    rwa [Sql.text_ofText]
  | jsonLength column op value =>
    apply checked op
    have ⟨length, opens⟩ := Target.jsonLength_spans alone (shelters column (by simp [columns]))
    simp only [Sql.text_append, Sql.text_ofText]
    exact ((length.compared op).link (operand (by simp [operands])) rfl).stands
      ((((opens.append _).append _).append _).append _)
  | fullText columns terms options => exact Target.fullText_stands shelters terms options

theorem Parts.Closed.of {t : Target} {q : Query}
    (columns : Compiles (fun parts => ∀ part ∈ parts, part.Closed t.dialect) (selectionSqls t q.columns))
    (source : Compiles (Sql.Closed t.dialect) (sourceSql t q.source))
    (joins : Compiles (fun parts => ∀ part ∈ parts, part.Closed t.dialect) (joinSqls t q.joins))
    (wheres : Compiles (fun tests => ∀ test ∈ tests, test.2.Closed t.dialect) (predicateSqls t q.wheres))
    (havings : Compiles (fun tests => ∀ test ∈ tests, test.2.Closed t.dialect) (predicateSqls t q.havings))
    (unions : Compiles (fun parts => ∀ part ∈ parts, part.Closed t.dialect) (unionSqls t q.unions)) :
    (q.parts t).Closed t.dialect where
  columns := columns
  source := source
  joins := joins
  wheres := wheres.map fun _ all => joinConditions_closed all
  havings := havings.map fun _ all => joinConditions_closed all
  unions := unions

mutual

theorem Query.sql_closed {t : Target} : ∀ q : Query, q.Whole t → Compiles (Sql.Closed t.dialect) (q.sql t)
  | ⟨_, columns, _, source, _, joins, wheres, _, havings, _, _, _, _, unions, _, _, _, _⟩, whole => by
    rw [Query.sql_eq_assemble]
    refine Target.assemble_closed whole ?_
    obtain ⟨_, columnsWhole, _, sourceWhole, targets, on, wheresWhole, _, havingsWhole, _, _, members, _, _⟩ := whole
    exact .of (selectionSqls_closed columns columnsWhole) (sourceSql_closed source sourceWhole)
      (joinSqls_closed joins targets on) (predicateSqls_closed wheres wheresWhole)
      (predicateSqls_closed havings havingsWhole) (unionSqls_closed unions members)

theorem selectionSqls_closed {t : Target} : ∀ items : List Selection, (∀ item ∈ items, item.Whole t) →
    Compiles (fun parts => ∀ part ∈ parts, part.Closed t.dialect) (selectionSqls t items)
  | [], _ => .ok (by simp)
  | item :: rest, whole => by
    have ⟨head, tail⟩ := List.forall_mem_cons.mp whole
    apply (Selection.sql_closed item head).bind
    intro first closed
    exact (selectionSqls_closed rest tail).map fun _ all => List.forall_mem_cons.mpr ⟨closed, all⟩

theorem Selection.sql_closed {t : Target} : ∀ item : Selection, item.Whole t →
    Compiles (Sql.Closed t.dialect) (item.sql t)
  | .column _, .column shelters => .ok (.ofText (Target.column_spans shelters))
  | .raw _ _, .raw closed => .ok (.raw closed)
  | .derived q _, .derived whole => by
    apply (Query.sql_closed q whole).map
    intro rows closed
    exact (closed.within (n := 0) rfl rfl).append (.ofText (quoteName_spans _))

theorem sourceSql_closed {t : Target} : ∀ source : Option Source, (∀ s ∈ source, s.Whole t) →
    Compiles (Sql.Closed t.dialect) (sourceSql t source)
  | none, _ => .ok .empty
  | some source, whole => Source.sql_closed source (whole source rfl)

theorem Source.sql_closed {t : Target} : ∀ source : Source, source.Whole t →
    Compiles (Sql.Closed t.dialect) (source.sql t)
  | .table _, _ => .ok (.ofText (Target.table_spans _))
  | .raw _ _, .raw closed => .ok (.raw closed)
  | .derived q _, .derived whole => (Query.sql_closed q whole).map fun _ closed => Target.derivedTable_closed closed

theorem joinSqls_closed {t : Target} : ∀ items : List Join, (∀ join ∈ items, join.target.Whole t) →
    (∀ join ∈ items, ∀ p ∈ join.on, p.condition.Whole t false) →
    Compiles (fun parts => ∀ part ∈ parts, part.Closed t.dialect) (joinSqls t items)
  | [], _, _ => .ok (by simp)
  | ⟨kind, target, on⟩ :: rest, targets, conditions => by
    have ⟨head, tail⟩ := List.forall_mem_cons.mp targets
    have ⟨headOn, tailOn⟩ := List.forall_mem_cons.mp conditions
    apply (Join.sql_closed ⟨kind, target, on⟩ head headOn).bind
    intro first closed
    exact (joinSqls_closed rest tail tailOn).map fun _ all => List.forall_mem_cons.mpr ⟨closed, all⟩

theorem Join.sql_closed {t : Target} : ∀ join : Join, join.target.Whole t →
    (∀ p ∈ join.on, p.condition.Whole t false) → Compiles (Sql.Closed t.dialect) (join.sql t)
  | ⟨_, target, on⟩, whole, conditions => by
    apply (JoinTarget.sql_closed target whole).bind
    intro rows closed
    split
    · exact lateralJoin_closed closed
    · exact plainJoin_closed closed ((predicateSqls_closed on conditions).map fun _ all => joinConditions_closed all)

theorem JoinTarget.sql_closed {t : Target} : ∀ target : JoinTarget, target.Whole t →
    Compiles (Sql.Closed t.dialect) (target.sql t)
  | .table _, _ => .ok (.ofText (Target.table_spans _))
  | .derived q _, .derived whole => (Query.sql_closed q whole).map fun _ closed => Target.derivedTable_closed closed
  | .lateral q _, .lateral whole => (Query.sql_closed q whole).map fun _ closed => Target.derivedTable_closed closed

theorem predicateSqls_closed {t : Target} {alone : Bool} : ∀ clause : List Predicate,
    (∀ p ∈ clause, p.condition.Whole t alone) →
    Compiles (fun tests => ∀ test ∈ tests, test.2.Closed t.dialect) (predicateSqls t clause)
  | [], _ => .ok (by simp)
  | ⟨condition, conjunction, negated⟩ :: rest, whole => by
    have ⟨head, tail⟩ := List.forall_mem_cons.mp whole
    apply (Predicate.sql_closed ⟨condition, conjunction, negated⟩ head).bind
    intro first closed
    exact (predicateSqls_closed rest tail).map fun _ all => List.forall_mem_cons.mpr ⟨closed, all⟩

theorem Predicate.sql_closed {t : Target} {alone : Bool} : ∀ p : Predicate, p.condition.Whole t alone →
    Compiles (fun test => test.2.Closed t.dialect) (p.sql t)
  | ⟨condition, _, negated⟩, whole => by
    apply (Condition.sql_stands_within condition whole).map
    intro test stands
    have word : (Sql.ofText (notWord negated)).Closed t.dialect := by cases negated <;> exact .words rfl
    exact word.append stands.spans.closed

theorem Condition.sql_stands_within {t : Target} {alone : Bool} : ∀ condition : Condition, condition.Whole t alone →
    Compiles (fun s => t.dialect.Stands alone s.text) (condition.sql t)
  | .nested clause, whole => by
    have ⟨_, _, _, _, all⟩ := whole
    have tests := predicateSqls_closed clause all
    exact whole.sql_stands nofun fun _ same => Condition.nested.inj same ▸ tests
  | .hasRows query, whole | .inQuery _ query _, whole | .compareQuery _ _ query, whole => by
    have ⟨_, _, _, subquery, _⟩ := whole
    have rows := Subquery.sql_closed query (subquery query rfl)
    exact whole.sql_stands (fun _ found => Option.some.inj found ▸ rows) nofun
  | .compare .., whole | .compareColumns .., whole | .raw .., whole | .isNull .., whole | .datePart .., whole
  | .inList .., whole | .between .., whole | .betweenColumns .., whole | .compareRow .., whole
  | .jsonContains .., whole | .jsonHasKey .., whole | .jsonLength .., whole | .fullText .., whole =>
    whole.sql_stands nofun nofun

theorem Subquery.sql_closed {t : Target} : ∀ query : Subquery, query.Whole t →
    Compiles (Sql.Closed t.dialect) (query.sql t)
  | .query q, .query whole => Query.sql_closed q whole
  | .raw _ _, .raw closed => .ok (.raw closed)

theorem unionSqls_closed {t : Target} : ∀ unions : List Union, (∀ union ∈ unions, union.query.Whole t) →
    Compiles (fun parts => ∀ part ∈ parts, part.Closed t.dialect) (unionSqls t unions)
  | [], _ => .ok (by simp)
  | ⟨q, all⟩ :: rest, whole => by
    have ⟨head, tail⟩ := List.forall_mem_cons.mp whole
    have word : (Sql.ofText (if all then "UNION ALL " else "UNION ")).Closed t.dialect := by
      split <;> exact .words rfl
    apply (Query.sql_closed q head).bind
    intro rows closed
    have member := word.append (Target.unionMember_closed closed)
    exact (unionSqls_closed rest tail).map fun _ all => List.forall_mem_cons.mpr ⟨member, all⟩

end

end SqlCompiler
