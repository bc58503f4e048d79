import SqlCompiler.Query.Building
import SqlCompiler.Select.Paging

namespace SqlCompiler

/-- What a query holds, compiled. A part that is never written may have failed. -/
structure Parts where
  columns : Except Error (List Sql)
  source : Except Error Sql
  joins : Except Error (List Sql)
  wheres : Except Error Sql
  havings : Except Error Sql
  unions : Except Error (List Sql)

/-- The components of a select statement in the order in which they are written. -/
structure Components where
  aggregate : Sql
  columns : Sql
  source : Sql
  indexHint : Sql
  joins : Sql
  wheres : Sql
  groups : Sql
  havings : Sql
  orders : Sql
  paging : List Sql
  lock : Sql

namespace Components

def named (c : Components) : List (String × Sql) :=
  [("aggregate", c.aggregate), ("columns", c.columns), ("from", c.source), ("index_hint", c.indexHint),
    ("joins", c.joins), ("wheres", c.wheres), ("groups", c.groups), ("havings", c.havings), ("orders", c.orders)] ++
  c.paging.map (("pagination", ·)) ++ [("lock", c.lock)]

def written (c : Components) : List (String × Sql) := c.named.filter fun (_, sql) => !sql.isEmpty

def sql (c : Components) : Sql := .concat (c.named.map Prod.snd)

end Components

namespace Target

def selectKeyword (t : Target) (q : Query) : String :=
  match t.dialect, q.distinct with
  | .postgres, .columns names => "SELECT DISTINCT ON (" ++ t.columns names ++ ")"
  | .sqlServer, distinct =>
    (if distinct = .off then "SELECT" else "SELECT DISTINCT") ++
      (match q.limit, q.offset with
        | some n, none => " TOP " ++ toString n.toNat
        | _, _ => "")
  | _, .off => "SELECT"
  | _, .rows | _, .columns _ => "SELECT DISTINCT"

def aggregateColumns (t : Target) (q : Query) (names : List String) : String :=
  let columns := if names.isEmpty then "*" else t.columns names
  if q.distinct ≠ .off ∧ columns ≠ "*" then "DISTINCT " ++ columns else columns

def aggregate (t : Target) (q : Query) : Sql :=
  match q.aggregate with
  | none => .empty
  | some a =>
    "SELECT " ++ a.function.sql ++ "(" ++ t.aggregateColumns q a.columns ++ ") AS " ++
      t.dialect.quoteName "aggregate"

def selectList (t : Target) (q : Query) (p : Parts) : Except Error Sql :=
  if q.aggregate.isSome then
    .ok .empty
  else do
    let columns ← p.columns
    return t.selectKeyword q ++ " " ++ (if columns.isEmpty then Sql.ofText "*" else Sql.join ", " columns)

def hintedIndexes (t : Target) (hint : IndexHint) : String :=
  ", ".intercalate ((Text.parts ',' hint.indexes).map fun name => t.dialect.quoteName (Text.strip name))

def HintKind.mysqlWord : HintKind → String
  | .use => "USE"
  | .force => "FORCE"
  | .ignore => "IGNORE"

/-- Advice that a dialect has no words for is left out. -/
def indexHint (t : Target) (hint : IndexHint) : String :=
  match t.dialect, hint.kind with
  | .mysql, kind => HintKind.mysqlWord kind ++ " INDEX (" ++ t.hintedIndexes hint ++ ")"
  | .sqlite, .force => "INDEXED BY " ++ t.hintedIndexes hint
  | .sqlServer, .force => "WITH (INDEX(" ++ t.hintedIndexes hint ++ "))"
  | _, _ => ""

def lockClause (t : Target) : Lock → String
  | .raw sql =>
    match t.dialect with
    | .postgres | .mysql => sql
    | .sqlite | .sqlServer => ""
  | .update =>
    match t.dialect with
    | .postgres | .mysql => "FOR UPDATE"
    | .sqlite | .sqlServer => ""
  | .shared =>
    match t.dialect with
    | .postgres => "FOR SHARE"
    | .mysql => "LOCK IN SHARE MODE"
    | .sqlite | .sqlServer => ""

def tableLock : Lock → String
  | .update => "WITH(ROWLOCK,UPDLOCK,HOLDLOCK)"
  | .shared => "WITH(ROWLOCK,HOLDLOCK)"
  | .raw sql => sql

def sourceTable (t : Target) (q : Query) (name : String) : Sql :=
  match t.dialect, q.lock with
  | .sqlServer, some lock =>
    .concat ["FROM " ++ t.table name, tableLock lock]
  | _, _ => "FROM " ++ t.table name

def sourceClause (t : Target) (q : Query) (p : Parts) : Except Error Sql :=
  match q.source with
  | none => .ok .empty
  | some (.table name) => .ok (t.sourceTable q name)
  | some (.raw sql values) => .ok ("FROM " ++ Sql.raw sql values)
  | some (.derived _ _) => do return "FROM " ++ (← p.source)

def grouping (t : Target) : Grouping → Sql
  | .column name => t.column name
  | .raw sql values => .raw sql values

def groupBy (t : Target) (groups : List Grouping) : Sql :=
  if groups.isEmpty then .empty else "GROUP BY " ++ Sql.join ", " (groups.map t.grouping)

def clauseAfter (keyword : String) (clause : Clause) (sql : Except Error Sql) : Except Error Sql :=
  if clause.isEmpty then .ok .empty else do return keyword ++ " " ++ (← sql)

def components (t : Target) (q : Query) (p : Parts) : Except Error Components := do
  return {
    aggregate := t.aggregate q
    columns := ← t.selectList q p
    source := ← t.sourceClause q p
    indexHint := (q.indexHint.map t.indexHint).getD ""
    joins := .join " " (← p.joins)
    wheres := ← clauseAfter "WHERE" q.wheres p.wheres
    groups := t.groupBy q.groups
    havings := ← clauseAfter "HAVING" q.havings p.havings
    orders := t.queryOrder q
    paging := (t.queryPaging q).map Sql.ofText
    lock := (q.lock.map t.lockClause).getD "" }

def rowNumber (t : Target) (column : String) (orders : Sql) : Sql :=
  let window :=
    match t.dialect with
    | .sqlServer =>
      "PARTITION BY " ++ t.column column ++ " " ++ (if orders.isEmpty then Sql.ofText anyOrder else orders)
    | _ => ("PARTITION BY " ++ t.column column ++ " " ++ orders : Sql).trimEnd
  ", ROW_NUMBER() OVER (" ++ window ++ ") AS " ++ t.dialect.quoteName "group_row"

def lastRow (g : GroupLimit) (offset : Option UInt64) : Nat :=
  min (g.count.toNat + (offset.getD 0).toNat) Query.greatest

/-- The test for the row numbers that a group limit lets through, and the order by row number. -/
def rowRange (t : Target) (g : GroupLimit) (offset : Option UInt64) : String :=
  let row := t.dialect.quoteName "group_row"
  row ++ " <= " ++ toString (lastRow g offset) ++
    (match offset with
      | none => ""
      | some m => " AND " ++ row ++ " > " ++ toString m.toNat) ++
    " ORDER BY " ++ row

def numberedGroups (t : Target) (q : Query) (g : GroupLimit) (p : Parts) : Except Error Sql := do
  let c ← t.components { q with groupLimit := none, offset := none } p
  let numbered := { c with columns := c.columns ++ t.rowNumber g.column c.orders, orders := .empty }
  return "SELECT * FROM (" ++ numbered.sql ++ ") AS " ++ t.dialect.quoteName "group_table" ++ " WHERE " ++
    t.rowRange g q.offset

def countedGroups (t : Target) (q : Query) (g : GroupLimit) (p : Parts) : Except Error Sql := do
  let orders := Order.column g.column .asc :: q.orders
  let c ← t.components { q with groupLimit := none, offset := none, orders } p
  let key := t.dialect.quoteName (Text.lastPart '.' g.column)
  let row := t.dialect.quoteName "group_row"
  let table := t.dialect.quoteName "group_table"
  return "SELECT " ++ table ++ ".*, @group_row := IF(@group_key = " ++ key ++ ", @group_row + 1, 1) AS " ++ row ++
    ", @group_key := " ++ key ++ " FROM (SELECT @group_row := 0, @group_key := 0) AS " ++
    t.dialect.quoteName "group_variables" ++ ", (" ++ c.sql ++ ") AS " ++ table ++ " HAVING " ++
    t.rowRange g q.offset

def limitedGroups (t : Target) (q : Query) (g : GroupLimit) (p : Parts) : Except Error Sql :=
  if t.dialect = .sqlite ∧ t.olderThan 3 25 0 then t.unsupported .groupLimit
  else if t.numbersRows then t.numberedGroups q g p
  else t.countedGroups q g p

def unionMember (t : Target) (sql : Sql) : Sql :=
  match t.dialect with
  | .postgres | .mysql => "(" ++ sql ++ ")"
  | .sqlite => "SELECT * FROM (" ++ sql ++ ")"
  | .sqlServer => "SELECT * FROM (" ++ sql ++ ") AS " ++ t.table "temp_table"

/-- The members after the first, and the order and paging of the whole. -/
def unionTail (t : Target) (q : Query) (members : List Sql) : Sql :=
  let orders := if q.unionOrders.isEmpty then [] else [t.orderBy q.unionOrders]
  .join " " (members ++ orders ++ (t.unionPaging q).map Sql.ofText)

/-- The rows of a query, without an aggregate over all of them. A group limit takes the place of a union. -/
def rows (t : Target) (q : Query) (p : Parts) : Except Error Sql :=
  match q.groupLimit with
  | some g => t.limitedGroups q g p
  | none => do
    let c ← t.components q p
    if q.unions.isEmpty then
      return c.sql
    else
      return t.unionMember c.sql ++ " " ++ t.unionTail q (← p.unions)

/-- The rows are a table of their own where an aggregate has to be taken of what they come to in the end. -/
def aggregatesDerived (q : Query) : Bool :=
  q.aggregate.isSome && (!q.unions.isEmpty || !q.havings.isEmpty || q.groupLimit.isSome)

def assemble (t : Target) (q : Query) (p : Parts) : Except Error Sql :=
  if aggregatesDerived q then do
    return t.aggregate q ++ " FROM (" ++ (← t.rows { q with aggregate := none } p) ++ ") AS " ++
      t.table "temp_table"
  else
    t.rows q p

end Target

end SqlCompiler
