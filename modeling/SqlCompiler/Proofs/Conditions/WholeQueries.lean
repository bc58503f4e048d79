import SqlCompiler.Proofs.Conditions.Comparisons
import SqlCompiler.Select.Compile

namespace SqlCompiler

def Order.Whole (t : Target) : Order → Prop
  | .column name _ => t.Shelters name
  | .raw sql _ => t.dialect.Closed sql
  | .random _ => True

def Grouping.Whole (t : Target) : Grouping → Prop
  | .column name => t.Shelters name
  | .raw sql _ => t.dialect.Closed sql

def Distinct.Whole (t : Target) : Distinct → Prop
  | .columns names => ∀ name ∈ names, t.Shelters name
  | .off | .rows => True

def Lock.Whole (d : Dialect) : Lock → Prop
  | .raw sql => d.Closed sql
  | .update | .shared => True

namespace Condition

def columns : Condition → List String
  | .raw _ _ | .nested _ | .hasRows _ => []
  | .compareColumns first _ second => [first, second]
  | .betweenColumns column low high _ => [column, low, high]
  | .compareRow columns _ _ | .fullText columns _ _ => columns
  | .compare column _ _ | .isNull column _ | .datePart column _ _ _ | .inList column _ _ | .inQuery column _ _
  | .between column _ _ _ | .compareQuery column _ _ | .jsonContains column _ | .jsonHasKey column
  | .jsonLength column _ _ => [column]

def operands : Condition → List Operand
  | .compare _ _ value | .datePart _ _ _ value | .jsonLength _ _ value => [value]
  | .inList _ values _ | .compareRow _ _ values => values
  | .between _ low high _ => [low, high]
  | _ => []

def subquery? : Condition → Option Subquery
  | .hasRows query | .inQuery _ query _ | .compareQuery _ _ query => some query
  | _ => none

def clause : Condition → Clause
  | .nested clause => clause
  | _ => []

end Condition

mutual

/-- What stands in a query is closed, in the queries within it too. -/
inductive Query.Whole (t : Target) : Query → Prop
  | intro {q : Query}
    (aggregate : ∀ a ∈ q.aggregate, ∀ name ∈ a.columns, t.Shelters name)
    (columns : ∀ item ∈ q.columns, Selection.Whole t item)
    (distinct : q.distinct.Whole t)
    (source : ∀ source ∈ q.source, Source.Whole t source)
    (joins : ∀ join ∈ q.joins, JoinTarget.Whole t join.target)
    (on : ∀ join ∈ q.joins, ∀ p ∈ join.on, Condition.Whole t false p.condition)
    (wheres : ∀ p ∈ q.wheres, Condition.Whole t false p.condition)
    (groups : ∀ group ∈ q.groups, group.Whole t)
    (havings : ∀ p ∈ q.havings, Condition.Whole t false p.condition)
    (orders : ∀ order ∈ q.orders, order.Whole t)
    (groupLimit : ∀ g ∈ q.groupLimit, t.Shelters g.column)
    (unions : ∀ union ∈ q.unions, Query.Whole t union.query)
    (unionOrders : ∀ order ∈ q.unionOrders, order.Whole t)
    (lock : ∀ lock ∈ q.lock, lock.Whole t.dialect) :
    Query.Whole t q

inductive Selection.Whole (t : Target) : Selection → Prop
  | column {name : String} (shelters : t.Shelters name) : Selection.Whole t (.column name)
  | raw {sql : String} {values : List Value} (closed : t.dialect.Closed sql) : Selection.Whole t (.raw sql values)
  | derived {q : Query} {label : String} (whole : q.Whole t) : Selection.Whole t (.derived q label)

inductive Source.Whole (t : Target) : Source → Prop
  | table {name : String} : Source.Whole t (.table name)
  | raw {sql : String} {values : List Value} (closed : t.dialect.Closed sql) : Source.Whole t (.raw sql values)
  | derived {q : Query} {label : String} (whole : q.Whole t) : Source.Whole t (.derived q label)

inductive JoinTarget.Whole (t : Target) : JoinTarget → Prop
  | table {name : String} : JoinTarget.Whole t (.table name)
  | derived {q : Query} {label : String} (whole : q.Whole t) : JoinTarget.Whole t (.derived q label)
  | lateral {q : Query} {label : String} (whole : q.Whole t) : JoinTarget.Whole t (.lateral q label)

/-- A condition that is read in its clause has fragments that stand alone; elsewhere it is enough that they are
closed, as it is for the queries within a condition. -/
inductive Condition.Whole (t : Target) : Bool → Condition → Prop
  | intro {alone : Bool} {c : Condition}
    (columns : ∀ name ∈ c.columns, t.Shelters name)
    (operands : ∀ value ∈ c.operands, value.Fits t.dialect alone)
    (fragment : ∀ sql values, c = .raw sql values → t.dialect.Stands alone sql)
    (subquery : ∀ query ∈ c.subquery?, Subquery.Whole t query)
    (clause : ∀ p ∈ c.clause, Condition.Whole t alone p.condition) :
    Condition.Whole t alone c

inductive Subquery.Whole (t : Target) : Subquery → Prop
  | query {q : Query} (whole : q.Whole t) : Subquery.Whole t (.query q)
  | raw {sql : String} {values : List Value} (closed : t.dialect.Closed sql) : Subquery.Whole t (.raw sql values)

end

def Sql.Closed (d : Dialect) (s : Sql) : Prop := d.Closed s.text

namespace Sql.Closed

variable {d : Dialect} {a b : Sql}

theorem empty : Sql.empty.Closed d := Dialect.Spans.empty

theorem ofText {s : String} (closed : d.Closed s) : (Sql.ofText s).Closed d := by
  rwa [Sql.Closed, Sql.text_ofText]

theorem words {cs : List Char} (check : plainlyWalks 0 cs 0 = true) : (Sql.ofText (String.ofList cs)).Closed d :=
  ofText (.words check)

theorem raw {sql : String} {values : List Value} (closed : d.Closed sql) : (Sql.raw sql values).Closed d := by
  rwa [Sql.Closed, Sql.text_raw]

theorem append (first : a.Closed d) (second : b.Closed d) : (a ++ b).Closed d := by
  rw [Sql.Closed, Sql.text_append]
  exact first.beside second

theorem within (inner : a.Closed d) {cs ds : List Char} {n : Nat} (opens : plainlyWalks 0 cs (n + 1) = true)
    (closes : plainlyWalks (n + 1) ds 0 = true) :
    (Sql.ofText (String.ofList cs) ++ a ++ Sql.ofText (String.ofList ds)).Closed d := by
  simp only [Sql.Closed, Sql.text_append, Sql.text_ofText]
  exact ((Dialect.Spans.words opens).holding inner).beside (.words closes)

theorem join {cs : List Char} {parts : List Sql} (between : plainlyWalks 0 cs 0 = true)
    (all : ∀ part ∈ parts, part.Closed d) : (Sql.join (String.ofList cs) parts).Closed d := by
  fun_induction Sql.join (String.ofList cs) parts with
  | case1 => exact empty
  | case2 s => exact all s (by simp)
  | case3 s next rest ih =>
    have later := ih fun part member => all part (List.mem_cons_of_mem _ member)
    exact ((all s (by simp)).append (words between)).append later

theorem concat {parts : List Sql} (all : ∀ part ∈ parts, part.Closed d) : (Sql.concat parts).Closed d :=
  join rfl fun part member => all part (List.mem_filter.mp member).1

end Sql.Closed

theorem JoinKind.sql_closed (d : Dialect) (kind : JoinKind) : d.Closed kind.sql := by
  cases kind <;> exact .words rfl

namespace Target

theorem limitWord_closed (d : Dialect) (n : UInt64) : d.Closed (limitWord n) :=
  (Dialect.Spans.words (j := 0) rfl).beside (Nat.toString_spans n.toNat)

theorem offsetWord_closed (d : Dialect) (n : UInt64) : d.Closed (offsetWord n) :=
  (Dialect.Spans.words (j := 0) rfl).beside (Nat.toString_spans n.toNat)

theorem limitAndOffset_closed (t : Target) (limit offset : Option UInt64) :
    ∀ word ∈ t.limitAndOffset limit offset, t.dialect.Closed word := by
  have unlimited : ∀ word ∈ t.unlimited, t.dialect.Closed word := by
    unfold Target.unlimited
    split <;> simp only [List.mem_singleton, forall_eq, List.not_mem_nil, false_implies, implies_true]
    all_goals exact .words rfl
  unfold limitAndOffset
  split <;> simp only [List.forall_mem_append, List.forall_mem_cons, List.not_mem_nil, false_implies, implies_true,
    and_true]
  · exact limitWord_closed t.dialect _
  · exact ⟨unlimited, offsetWord_closed t.dialect _⟩
  · exact ⟨limitWord_closed t.dialect _, offsetWord_closed t.dialect _⟩

theorem offsetAndFetch_closed (d : Dialect) (limit : Option UInt64) (offset : UInt64) :
    ∀ word ∈ offsetAndFetch limit offset, d.Closed word := by
  have skipped : d.Closed ("OFFSET " ++ toString offset.toNat ++ " ROWS") :=
    ((Dialect.Spans.words (j := 0) rfl).beside (Nat.toString_spans _)).beside (.words rfl)
  unfold offsetAndFetch
  split <;> simp only [List.forall_mem_cons, List.not_mem_nil, false_implies, implies_true, and_true]
  · exact skipped
  · exact ⟨skipped, ((Dialect.Spans.words (j := 0) rfl).beside (Nat.toString_spans _)).beside (.words rfl)⟩

theorem queryPaging_closed (t : Target) (q : Query) : ∀ word ∈ t.queryPaging q, t.dialect.Closed word := by
  unfold queryPaging
  split
  · split
    · simp
    · exact offsetAndFetch_closed _ _ _
  · exact t.limitAndOffset_closed _ _

theorem anyOrder_closed (d : Dialect) : d.Closed anyOrder := .words rfl

theorem unionPaging_closed (t : Target) (q : Query) : ∀ word ∈ t.unionPaging q, t.dialect.Closed word := by
  unfold unionPaging
  split
  · split
    · simp
    · rw [List.forall_mem_append]
      refine ⟨?_, offsetAndFetch_closed _ _ _⟩
      split
      · simpa using anyOrder_closed t.dialect
      · simp
  · exact t.limitAndOffset_closed _ _

theorem randomOrder_closed (t : Target) (seed : Option UInt64) : t.dialect.Closed (t.randomOrder seed) := by
  unfold randomOrder
  repeat' split
  all_goals first
    | exact .words rfl
    | exact ((Dialect.Spans.words (j := 1) rfl).holding (Nat.toString_spans _)).beside (.words rfl)

section

variable {t : Target}

theorem order_closed {order : Order} (whole : order.Whole t) : (t.order order).Closed t.dialect := by
  cases order with
  | column name direction =>
    have word : (Sql.ofText direction.sql).Closed t.dialect := by cases direction <;> exact .words rfl
    exact ((Sql.Closed.ofText (column_spans whole)).append (.words rfl)).append word
  | raw sql values => exact .raw whole
  | random seed => exact .ofText (t.randomOrder_closed seed)

theorem orderBy_closed {orders : List Order} (whole : ∀ order ∈ orders, order.Whole t) :
    (t.orderBy orders).Closed t.dialect := by
  unfold orderBy
  split
  · exact .empty
  · refine (Sql.Closed.words rfl).append (.join rfl fun part member => ?_)
    obtain ⟨order, inOrders, rfl⟩ := List.mem_map.mp member
    exact order_closed (whole order inOrders)

theorem queryOrder_closed {q : Query} (whole : ∀ order ∈ q.orders, order.Whole t) :
    (t.queryOrder q).Closed t.dialect := by
  unfold queryOrder
  split
  · exact .ofText (anyOrder_closed t.dialect)
  · exact orderBy_closed whole

theorem groupBy_closed {groups : List Grouping} (whole : ∀ group ∈ groups, group.Whole t) :
    (t.groupBy groups).Closed t.dialect := by
  unfold groupBy
  split
  · exact .empty
  · refine (Sql.Closed.words rfl).append (.join rfl fun part member => ?_)
    obtain ⟨group, inGroups, rfl⟩ := List.mem_map.mp member
    have each := whole group inGroups
    cases group with
    | column name => exact .ofText (column_spans each)
    | raw sql values => exact .raw each

theorem selectKeyword_closed {q : Query} (distinct : q.distinct.Whole t) : t.dialect.Closed (t.selectKeyword q) := by
  unfold selectKeyword
  split
  · rename_i names _ found
    rw [found] at distinct
    exact ((Dialect.Spans.words (j := 1) rfl).holding (columns_spans distinct)).beside (.words rfl)
  · refine Dialect.Spans.beside (j := 0) ?_ ?_
    · split <;> exact .words rfl
    · split
      · exact (Dialect.Spans.words (j := 0) rfl).beside (Nat.toString_spans _)
      · exact .empty
  all_goals exact .words rfl

theorem aggregate_closed {q : Query} (shelters : ∀ a ∈ q.aggregate, ∀ name ∈ a.columns, t.Shelters name) :
    (t.aggregate q).Closed t.dialect := by
  unfold aggregate
  split
  · exact .empty
  · rename_i a found
    have columns : t.dialect.Closed (t.aggregateColumns q a.columns) := by
      have chosen : t.dialect.Closed (if a.columns.isEmpty then "*" else t.columns a.columns) := by
        split
        · exact .words rfl
        · exact columns_spans (shelters a found)
      unfold aggregateColumns
      simp only
      generalize (if a.columns.isEmpty then "*" else t.columns a.columns) = shown at chosen ⊢
      split
      · exact (Dialect.Spans.words (j := 0) rfl).beside chosen
      · exact chosen
    have function : t.dialect.Closed a.function.sql := by cases a.function <;> exact .words rfl
    simp only [Sql.Closed, Sql.text_append, Sql.text_ofText]
    have called : t.dialect.Spans false 0 ("SELECT " ++ a.function.sql ++ "(") 1 :=
      ((Dialect.Spans.words (j := 0) rfl).beside function).beside (.words rfl)
    exact ((called.holding columns).beside (.words (j := 0) rfl)).beside (quoteName_spans "aggregate")

theorem selectList_closed {q : Query} {p : Parts} (distinct : q.distinct.Whole t)
    (columns : Compiles (fun parts => ∀ part ∈ parts, part.Closed t.dialect) p.columns) :
    Compiles (Sql.Closed t.dialect) (t.selectList q p) := by
  unfold selectList
  split
  · exact .ok .empty
  · apply columns.map
    intro parts closed
    refine ((Sql.Closed.ofText (selectKeyword_closed distinct)).append (.words rfl)).append ?_
    split
    · exact .words rfl
    · exact .join rfl closed

theorem indexHint_closed (t : Target) (hint : IndexHint) : t.dialect.Closed (t.indexHint hint) := by
  have indexes : t.dialect.Closed (t.hintedIndexes hint) := by
    apply Dialect.Spans.intercalate rfl
    intro part member
    obtain ⟨name, _, rfl⟩ := List.mem_map.mp member
    exact quoteName_spans _
  have word : t.dialect.Closed (HintKind.mysqlWord hint.kind) := by cases hint.kind <;> exact .words rfl
  unfold indexHint
  split
  · exact ((word.beside (.words (j := 1) rfl)).holding indexes).beside (.words rfl)
  · exact (Dialect.Spans.words (j := 0) rfl).beside indexes
  · exact ((Dialect.Spans.words (j := 2) rfl).holding indexes).beside (.words rfl)
  · exact .empty

theorem lockClause_closed {lock : Lock} (whole : lock.Whole t.dialect) : t.dialect.Closed (t.lockClause lock) := by
  cases lock with
  | raw sql =>
    unfold lockClause
    simp only
    split
    · exact whole
    · exact whole
    all_goals exact .empty
  | update | shared =>
    unfold lockClause
    simp only
    split <;> exact .words rfl

theorem tableLock_closed {d : Dialect} {lock : Lock} (whole : lock.Whole d) : d.Closed (tableLock lock) := by
  cases lock with
  | raw sql => exact whole
  | update => exact .words rfl
  | shared => exact .words rfl

theorem sourceTable_closed {q : Query} (lock : ∀ lock ∈ q.lock, lock.Whole t.dialect) (name : String) :
    (t.sourceTable q name).Closed t.dialect := by
  have table : (Sql.ofText "FROM " ++ Sql.ofText (t.table name)).Closed t.dialect :=
    (Sql.Closed.words rfl).append (.ofText (table_spans name))
  unfold sourceTable
  split
  · rename_i found
    refine .concat fun part member => ?_
    simp only [List.mem_cons, List.not_mem_nil, or_false] at member
    rcases member with rfl | rfl
    · exact table
    · exact .ofText (tableLock_closed (lock _ found))
  · exact table

theorem sourceClause_closed {q : Query} {p : Parts} (whole : ∀ source ∈ q.source, source.Whole t)
    (lock : ∀ lock ∈ q.lock, lock.Whole t.dialect) (source : Compiles (Sql.Closed t.dialect) p.source) :
    Compiles (Sql.Closed t.dialect) (t.sourceClause q p) := by
  unfold sourceClause
  split
  · exact .ok .empty
  · exact .ok (sourceTable_closed lock _)
  · rename_i sql values found
    cases whole _ found with
    | raw closed => exact .ok ((Sql.Closed.words rfl).append (.raw closed))
  · exact source.map fun rows closed => (Sql.Closed.words rfl).append closed

theorem clauseAfter_closed {d : Dialect} {keyword : String} {clause : Clause} {sql : Except Error Sql}
    (word : d.Closed keyword) (closed : Compiles (Sql.Closed d) sql) :
    Compiles (Sql.Closed d) (clauseAfter keyword clause sql) := by
  unfold clauseAfter
  split
  · exact .ok .empty
  · exact closed.map fun rows inner => ((Sql.Closed.ofText word).append (.words rfl)).append inner

end

end Target

end SqlCompiler
