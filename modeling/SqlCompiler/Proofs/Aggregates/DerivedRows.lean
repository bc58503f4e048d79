import SqlCompiler.Proofs.Retention.Nested

namespace SqlCompiler

theorem Sql.pieces_append (a b : Sql) : (a ++ b).pieces = a.pieces ++ b.pieces := rfl

namespace Query

/-- An aggregate of the query is taken of a table that its rows are derived into first. -/
def derivesRows (q : Query) : Bool := !q.unions.isEmpty || !q.havings.isEmpty || q.groupLimit.isSome

def withoutAggregate (q : Query) : Query := { q with aggregate := none }

def aggregated (q : Query) : Query :=
  { q with
    aggregate := none
    columns := if q.unions.isEmpty ∧ q.havings.isEmpty then [] else q.columns
    orders := if q.groups.isEmpty then [] else q.orders }

theorem toAggregate_eq (q : Query) (function : AggregateFunction) (columns : List String) :
    q.toAggregate function columns = { q.aggregated with aggregate := some ⟨function, columns⟩ } := by
  unfold toAggregate aggregated withAggregate
  split <;> split <;> simp_all

/-- The query whose components the statement is made of: without a limit for groups it is the query itself, else the one
that numbers its rows or that is read in the order of its groups. -/
def core (t : Target) (q : Query) : Query :=
  match q.groupLimit with
  | none => q
  | some g =>
    { q with
      groupLimit := none
      offset := none
      orders := if t.numbersRows then q.orders else .column g.column .asc :: q.orders }

theorem core_parts (t : Target) (q : Query) : (q.core t).parts t = q.parts t := by
  unfold core
  split <;> rfl

theorem core_aggregate (t : Target) (q : Query) : (q.core t).aggregate = q.aggregate := by
  unfold core
  split <;> rfl

theorem sql_of_plain {t : Target} {q : Query} (plain : q.aggregate = none) : q.sql t = t.rows q (q.parts t) := by
  rw [sql_eq_assemble, Target.assemble, if_neg (by simp [Target.aggregatesDerived, plain])]

end Query

namespace Target

/-- The rows of a query from the components of its core and the members of its union. -/
def rowsOf (t : Target) (q : Query) (c : Components) (members : List Sql) : Sql :=
  match q.groupLimit with
  | none => if q.unions.isEmpty then c.sql else t.unionMember c.sql ++ " " ++ t.unionTail q members
  | some g =>
    if t.numbersRows then
      let numbered := { c with columns := c.columns ++ t.rowNumber g.column c.orders, orders := .empty }
      "SELECT * FROM (" ++ numbered.sql ++ ") AS " ++ t.dialect.quoteName "group_table" ++ " WHERE " ++
        t.rowRange g q.offset
    else
      let key := t.dialect.quoteName (Text.lastPart '.' g.column)
      let row := t.dialect.quoteName "group_row"
      let table := t.dialect.quoteName "group_table"
      "SELECT " ++ table ++ ".*, @group_row := IF(@group_key = " ++ key ++ ", @group_row + 1, 1) AS " ++ row ++
        ", @group_key := " ++ key ++ " FROM (SELECT @group_row := 0, @group_key := 0) AS " ++
        t.dialect.quoteName "group_variables" ++ ", (" ++ c.sql ++ ") AS " ++ table ++ " HAVING " ++
        t.rowRange g q.offset

def refusesGroupLimit (t : Target) (q : Query) : Bool :=
  q.groupLimit.isSome && t.dialect = .sqlite && t.olderThan 3 25 0

def writtenMembers (q : Query) (p : Parts) : Except Error (List Sql) :=
  if q.groupLimit.isSome || q.unions.isEmpty then .ok [] else p.unions

theorem rows_eq (t : Target) (q : Query) (p : Parts) : t.rows q p =
    if t.refusesGroupLimit q then t.unsupported .groupLimit
    else do
      let c ← t.components (q.core t) p
      let members ← writtenMembers q p
      return t.rowsOf q c members := by
  cases limited : q.groupLimit with
  | none =>
    simp only [rows, limited, refusesGroupLimit, writtenMembers, rowsOf, Query.core]
    by_cases alone : q.unions.isEmpty = true
    · simp only [alone, if_true]
      rfl
    · simp [alone]
  | some g =>
    have refused : t.refusesGroupLimit q = true ↔ t.dialect = .sqlite ∧ t.olderThan 3 25 0 := by
      simp [refusesGroupLimit, limited]
    simp only [rows, limited, limitedGroups, refused]
    split
    · rfl
    · simp only [writtenMembers, rowsOf, Query.core, limited]
      by_cases numbered : t.numbersRows = true
      · simp only [numbered, if_true]
        rfl
      · simp only [if_neg numbered]
        rfl

end Target

/-- The components are the same but for the select list and the order. -/
structure Components.ReadsAs (c c' : Components) : Prop where
  source : c'.source = c.source
  indexHint : c'.indexHint = c.indexHint
  joins : c'.joins = c.joins
  wheres : c'.wheres = c.wheres
  groups : c'.groups = c.groups
  havings : c'.havings = c.havings
  paging : c'.paging = c.paging
  lock : c'.lock = c.lock

namespace Target

variable {t : Target} {q : Query} {p : Parts} {c : Components}

/-- Other columns and another order change the select list behind its keyword, and the order. -/
theorem components_reads (plain : q.aggregate = none) (compiled : t.components q p = .ok c) (items : List Sql)
    (columns : List Selection) (orders : List Order) : ∃ c',
      t.components { q with columns, orders } { p with columns := .ok items } = .ok c' ∧ c.ReadsAs c' ∧
        (∃ list list', c.columns = t.selectKeyword q ++ " " ++ list ∧ c'.columns = t.selectKeyword q ++ " " ++ list') ∧
        c.orders = t.queryOrder q ∧ c'.orders = t.queryOrder { q with columns, orders } := by
  obtain ⟨list, listed, compiled⟩ := ok_of_bind compiled
  obtain ⟨source, sourced, compiled⟩ := ok_of_bind compiled
  obtain ⟨joins, joined, compiled⟩ := ok_of_bind compiled
  obtain ⟨wheres, tested, compiled⟩ := ok_of_bind compiled
  obtain ⟨havings, filtered, same⟩ := ok_of_map compiled
  rw [selectList, if_neg (by simp [plain])] at listed
  obtain ⟨found, -, rfl⟩ := ok_of_map listed
  let list' : Sql := if items.isEmpty then Sql.ofText "*" else Sql.join ", " items
  let c' : Components :=
    { c with columns := t.selectKeyword q ++ " " ++ list', orders := t.queryOrder { q with columns, orders } }
  have listed' : t.selectList { q with columns, orders } { p with columns := .ok items } = .ok c'.columns := by
    rw [selectList, if_neg (by simp [plain])]
    rfl
  have sourced' : t.sourceClause { q with columns, orders } { p with columns := .ok items } = .ok source := sourced
  refine ⟨c', ?_, ⟨rfl, rfl, rfl, rfl, rfl, rfl, rfl, rfl⟩, ⟨_, list', by rw [← same], rfl⟩, by rw [← same], rfl⟩
  rw [components, listed', sourced']
  simp only [joined, tested, filtered, bind, Except.bind]
  subst same
  rfl

theorem orderBy_pieces (first : Order) (rest : List Order) : (t.orderBy (first :: rest)).pieces =
    .text "ORDER BY " :: (Sql.join ", " ((first :: rest).map t.order)).pieces := rfl

theorem orderBy_ne_anyOrder (first : Order) (rest : List Order) : t.orderBy (first :: rest) ≠ Sql.ofText anyOrder := by
  intro same
  have heads := congrArg Sql.pieces same
  rw [orderBy_pieces] at heads
  exact absurd (Piece.text.inj (List.cons.inj heads).1) (by decide)

theorem orderBy_ne_empty (first : Order) (rest : List Order) : t.orderBy (first :: rest) ≠ .empty := by
  intro same
  have heads := congrArg Sql.pieces same
  rw [orderBy_pieces] at heads
  cases heads

theorem orderBy_longer (first second : Order) (rest : List Order) :
    t.orderBy (first :: second :: rest) ≠ t.orderBy [first] := by
  intro same
  have longer : t.orderBy (first :: second :: rest) =
      t.orderBy [first] ++ (", " ++ Sql.join ", " ((second :: rest).map t.order) : Sql) := by
    simp [orderBy, Sql.join, Sql.append_assoc]
  have sizes := congrArg (List.length ∘ Sql.pieces) (longer.symm.trans same)
  simp [Sql.pieces_append, Sql.ofText] at sizes

theorem queryOrder_of_limited {g : GroupLimit} (limited : q.groupLimit = some g) : t.queryOrder (q.core t) =
    t.orderBy (if t.numbersRows then q.orders else .column g.column .asc :: q.orders) := by
  simp [queryOrder, Query.core, limited]

theorem order_kept_iff : t.queryOrder (q.aggregated.core t) = t.queryOrder (q.withoutAggregate.core t) ↔
    q.groups ≠ [] ∨ q.orders = [] := by
  constructor
  · intro same
    by_contra lost
    obtain ⟨ungrouped, ordered⟩ := not_or.mp lost
    obtain ⟨first, rest, orders⟩ := List.exists_cons_of_ne_nil ordered
    have dropped : q.aggregated.orders = [] := by simp [Query.aggregated, not_not.mp ungrouped]
    cases limited : q.groupLimit with
    | none =>
      have own : t.queryOrder (q.withoutAggregate.core t) = t.orderBy (first :: rest) := by
        simp [Query.core, Query.withoutAggregate, limited, queryOrder, orders]
      have core : q.aggregated.core t = q.aggregated := by simp [Query.core, Query.aggregated, limited]
      rw [own, core, queryOrder, dropped] at same
      split at same
      · exact orderBy_ne_anyOrder first rest same.symm
      · exact orderBy_ne_empty first rest same.symm
    | some g =>
      rw [queryOrder_of_limited (q := q.aggregated) limited, queryOrder_of_limited (q := q.withoutAggregate) limited,
        dropped, show q.withoutAggregate.orders = first :: rest from orders] at same
      split at same
      · exact orderBy_ne_empty first rest same.symm
      · exact orderBy_longer _ first rest same.symm
  · intro kept
    have orders : q.aggregated.orders = q.orders := by
      rcases kept with grouped | unordered
      · simp [Query.aggregated, grouped]
      · simp [Query.aggregated, unordered]
    cases limited : q.groupLimit with
    | none =>
      have own : q.withoutAggregate.core t = q.withoutAggregate := by
        simp [Query.core, Query.withoutAggregate, limited]
      have core : q.aggregated.core t = q.aggregated := by simp [Query.core, Query.aggregated, limited]
      rw [own, core, queryOrder, orders]
      rfl
    | some g =>
      rw [queryOrder_of_limited (q := q.aggregated) limited, queryOrder_of_limited (q := q.withoutAggregate) limited,
        orders]
      rfl

end Target

namespace Query

variable {t : Target} {q : Query}

theorem toAggregate_derives (q : Query) (function : AggregateFunction) (columns : List String) :
    Target.aggregatesDerived (q.toAggregate function columns) = q.derivesRows := by
  rw [toAggregate_eq]
  simp [Target.aggregatesDerived, derivesRows, aggregated]

theorem toAggregate_of_derives (derives : q.derivesRows) (function : AggregateFunction) (columns : List String) :
    (q.toAggregate function columns).sql t = do
      let rows ← q.aggregated.sql t
      return t.aggregate (q.toAggregate function columns) ++ " FROM (" ++ rows ++ ") AS " ++ t.table "temp_table" := by
  rw [sql_eq_assemble, Target.assemble, toAggregate_derives, if_pos derives, sql_of_plain (q := q.aggregated) rfl,
    toAggregate_eq]
  rfl

theorem withoutAggregate_sql_ok {s : Sql} (compiled : q.withoutAggregate.sql t = .ok s) :
    t.refusesGroupLimit q = false ∧ ∃ c members, t.components (q.withoutAggregate.core t) (q.parts t) = .ok c ∧
      Target.writtenMembers q (q.parts t) = .ok members ∧ t.rowsOf q c members = s := by
  rw [sql_of_plain (q := q.withoutAggregate) rfl, Target.rows_eq] at compiled
  split at compiled
  · cases compiled
  · rename_i accepted
    obtain ⟨c, found, compiled⟩ := ok_of_bind compiled
    obtain ⟨members, written, rfl⟩ := ok_of_map compiled
    exact ⟨(Bool.not_eq_true _).mp accepted, c, members, found, written, rfl⟩

theorem aggregated_core : q.aggregated.core t =
    { q.withoutAggregate.core t with
      columns := q.aggregated.columns
      orders := (q.aggregated.core t).orders } := by
  cases limited : q.groupLimit <;> simp [core, aggregated, withoutAggregate, limited]

theorem aggregated_columns_ok {c : Components}
    (compiled : t.components (q.withoutAggregate.core t) (q.parts t) = .ok c) :
    ∃ items, selectionSqls t q.aggregated.columns = .ok items := by
  obtain ⟨list, listed, -⟩ := ok_of_bind compiled
  obtain ⟨items, found, -⟩ := Target.selectList_ok listed (core_aggregate t q.withoutAggregate)
  unfold aggregated
  split
  · exact ⟨[], rfl⟩
  · exact ⟨items, found⟩

/-- The table that an aggregate is taken of is compiled like the query, from the same components but for the select list
behind its keyword. It has the order of the query exactly if the query is grouped or has no order. -/
theorem derivedRows_order_iff (t : Target) {q : Query} (derives : q.derivesRows) (function : AggregateFunction)
    (columns : List String) {s : Sql} (compiled : q.withoutAggregate.sql t = .ok s) :
    ∃ c c' members,
      (q.withoutAggregate.core t).components t = .ok c ∧ (q.aggregated.core t).components t = .ok c' ∧
      s = t.rowsOf q c members ∧
      (q.toAggregate function columns).sql t =
        .ok (t.aggregate (q.toAggregate function columns) ++ " FROM (" ++ t.rowsOf q c' members ++ ") AS " ++
          t.table "temp_table") ∧
      c.ReadsAs c' ∧
      (∃ list list', c.columns = t.selectKeyword (q.withoutAggregate.core t) ++ " " ++ list ∧
        c'.columns = t.selectKeyword (q.withoutAggregate.core t) ++ " " ++ list') ∧
      (c'.orders = c.orders ↔ q.groups ≠ [] ∨ q.orders = []) := by
  obtain ⟨accepted, c, members, found, written, rfl⟩ := withoutAggregate_sql_ok compiled
  obtain ⟨items, listed⟩ := aggregated_columns_ok found
  obtain ⟨c', compiled', reads, keyword, order, order'⟩ := Target.components_reads
    (core_aggregate t q.withoutAggregate) found items q.aggregated.columns (q.aggregated.core t).orders
  rw [← aggregated_core] at compiled' order'
  have parts : ({ q.parts t with columns := .ok items } : Parts) = q.aggregated.parts t := by
    rw [← listed]
    rfl
  rw [parts] at compiled'
  refine ⟨c, c', members, ?_, ?_, rfl, ?_, reads, keyword, ?_⟩
  · rw [components, core_parts]
    exact found
  · rw [components, core_parts]
    exact compiled'
  · have derived : q.aggregated.sql t = .ok (t.rowsOf q c' members) := by
      have accepted' : ¬ t.refusesGroupLimit q.aggregated = true := (Bool.not_eq_true _).mpr accepted
      rw [sql_of_plain (q := q.aggregated) rfl, Target.rows_eq, if_neg accepted', compiled']
      have same : Target.writtenMembers q.aggregated (q.aggregated.parts t) = .ok members := written
      simp only [same, bind, Except.bind]
      rfl
    rw [toAggregate_of_derives derives, derived]
    rfl
  · rw [order, order', Target.order_kept_iff]

def crowded : Query where
  columns := [.column "department"]
  source := some (.table "staff")
  groups := [.column "department"]
  havings := [⟨.compare "heads" .gt (.value (.int 1)), .and, false⟩]
  orders := [.column "department" .asc]
  limit := some 3

theorem crowded_counted : ∃ s c c' members, crowded.derivesRows = true ∧
    crowded.withoutAggregate.sql { dialect := .postgres } = .ok s ∧
    s = Target.rowsOf { dialect := .postgres } crowded c members ∧
    c.ReadsAs c' ∧ c'.orders = c.orders := by
  obtain ⟨s, compiled⟩ : ∃ s, crowded.withoutAggregate.sql { dialect := .postgres } = .ok s := ⟨_, rfl⟩
  have derives : crowded.derivesRows = true := rfl
  obtain ⟨c, c', members, -, -, rows, -, reads, -, order⟩ :=
    derivedRows_order_iff { dialect := .postgres } derives .count ["*"] compiled
  exact ⟨s, c, c', members, derives, compiled, rows, reads, order.mpr (.inl (by simp [crowded]))⟩

def bestPaid : Query where
  source := some (.table "staff")
  orders := [.column "pay" .desc]
  groupLimit := some ⟨1, "department"⟩

def numberedStaff (window : String) : String :=
  "SELECT * FROM (SELECT *, ROW_NUMBER() OVER (" ++ window ++ ") AS \"group_row\" FROM \"staff\") AS " ++
    "\"group_table\" WHERE \"group_row\" <= 1 ORDER BY \"group_row\""

/-- The highest bonus is taken of any one of each department. -/
theorem bestPaid_bonus_of_others :
    (bestPaid.sql { dialect := .sqlite }).toOption.map Sql.text =
      some (numberedStaff "PARTITION BY \"department\" ORDER BY \"pay\" DESC") ∧
    ((bestPaid.toAggregate .max ["bonus"]).sql { dialect := .sqlite }).toOption.map Sql.text =
      some ("SELECT MAX(\"bonus\") AS \"aggregate\" FROM (" ++ numberedStaff "PARTITION BY \"department\"" ++
        ") AS \"temp_table\"") := by
  decide +kernel

end Query

end SqlCompiler
