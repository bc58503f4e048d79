import SqlCompiler.Placeholder
import SqlCompiler.Query.Bindings
import SqlCompiler.Select.Assembly
import SqlCompiler.Select.Comparison

namespace SqlCompiler

/-- Conditions with the words that join them. The word before the first is not written. -/
def joinConditions : List (Conjunction × Sql) → Sql
  | [] => .empty
  | [(_, sql)] => sql
  | (_, sql) :: (word, next) :: rest => sql ++ " " ++ word.sql ++ " " ++ joinConditions ((word, next) :: rest)

namespace Target

def plainJoin (kind : JoinKind) (target : Sql) (on : Clause) (conditions : Except Error Sql) : Except Error Sql :=
  if on.isEmpty then .ok (kind.sql ++ " JOIN " ++ target)
  else do return kind.sql ++ " JOIN " ++ target ++ " ON " ++ (← conditions)

def lateralJoin (t : Target) (kind : JoinKind) (target : Sql) : Except Error Sql :=
  if ¬ t.hasLateralJoins then
    t.unsupported .lateralJoin
  else
    match t.dialect, kind with
    | .sqlServer, .inner | .sqlServer, .cross => .ok ("CROSS APPLY " ++ target)
    | .sqlServer, .left => .ok ("OUTER APPLY " ++ target)
    | .sqlServer, .right => t.unsupported .rightLateralJoin
    | _, _ => .ok (kind.sql ++ " JOIN LATERAL " ++ target ++ " ON TRUE")

def derivedTable (t : Target) (sql : Sql) (name : String) : Sql := "(" ++ sql ++ ") AS " ++ t.table name

end Target

mutual

/-- The select statement of a query. -/
def Query.sql (t : Target) : Query → Except Error Sql
  | q@⟨_, columns, _, source, _, joins, wheres, _, havings, _, _, _, _, unions, _, _, _, _⟩ =>
    t.assemble q {
      columns := selectionSqls t columns
      source := sourceSql t source
      joins := joinSqls t joins
      wheres := do return joinConditions (← predicateSqls t wheres)
      havings := do return joinConditions (← predicateSqls t havings)
      unions := unionSqls t unions }

def selectionSqls (t : Target) : List Selection → Except Error (List Sql)
  | [] => .ok []
  | item :: rest => do
    let first ← item.sql t
    let later ← selectionSqls t rest
    return first :: later

def Selection.sql (t : Target) : Selection → Except Error Sql
  | .column name => .ok (t.column name)
  | .raw sql values => .ok (.raw sql values)
  | .derived q label => do
    let rows ← q.sql t
    return "(" ++ rows ++ ") AS " ++ t.dialect.quoteName label

def sourceSql (t : Target) : Option Source → Except Error Sql
  | none => .ok .empty
  | some source => source.sql t

def Source.sql (t : Target) : Source → Except Error Sql
  | .table name => .ok (t.table name)
  | .raw sql values => .ok (.raw sql values)
  | .derived q label => do
    let rows ← q.sql t
    return t.derivedTable rows label

def joinSqls (t : Target) : List Join → Except Error (List Sql)
  | [] => .ok []
  | item :: rest => do
    let first ← item.sql t
    let later ← joinSqls t rest
    return first :: later

def Join.sql (t : Target) : Join → Except Error Sql
  | ⟨kind, target, on⟩ => do
    let rows ← target.sql t
    if target.isLateral then
      t.lateralJoin kind rows
    else
      Target.plainJoin kind rows on (do return joinConditions (← predicateSqls t on))

def JoinTarget.sql (t : Target) : JoinTarget → Except Error Sql
  | .table name => .ok (t.table name)
  | .derived q label => do
    let rows ← q.sql t
    return t.derivedTable rows label
  | .lateral q label => do
    let rows ← q.sql t
    return t.derivedTable rows label

def predicateSqls (t : Target) : List Predicate → Except Error (List (Conjunction × Sql))
  | [] => .ok []
  | item :: rest => do
    let first ← item.sql t
    let later ← predicateSqls t rest
    return first :: later

def Predicate.sql (t : Target) : Predicate → Except Error (Conjunction × Sql)
  | ⟨condition, conjunction, negated⟩ => do
    let test ← condition.sql t
    return (conjunction, notWord negated ++ test)

def Condition.sql (t : Target) : Condition → Except Error Sql
  | .compare column op value => do
    t.check op
    return t.comparison column op value
  | .compareColumns first op second => do
    t.check op
    return t.column first ++ " " ++ op.sql ++ " " ++ t.column second
  | .raw sql values => .ok (.raw sql values)
  | .nested clause => do
    let tests ← predicateSqls t clause
    return "( " ++ joinConditions tests ++ " )"
  | .hasRows query => do
    let rows ← query.sql t
    return "EXISTS ( " ++ rows ++ " )"
  | .isNull column negated => .ok (t.column column ++ " IS " ++ notWord negated ++ "NULL")
  | .datePart column part op value => do
    t.check op
    return t.datePartComparison column part op value
  | .inList column values negated => .ok (t.membership column values negated)
  | .inQuery column query negated => do
    let rows ← query.sql t
    return t.column column ++ " " ++ notWord negated ++ "IN (" ++ rows ++ ")"
  | .between column low high negated =>
    .ok (t.column column ++ " " ++ notWord negated ++ "BETWEEN " ++ low.sql ++ " AND " ++ high.sql)
  | .betweenColumns column low high negated =>
    .ok (t.column column ++ " " ++ notWord negated ++ "BETWEEN " ++ t.column low ++ " AND " ++ t.column high)
  | .compareQuery column op query => do
    t.check op
    let rows ← query.sql t
    return t.column column ++ " " ++ op.sql ++ " (" ++ rows ++ ")"
  | .compareRow columns op values => do
    t.check op
    return "(" ++ t.columns columns ++ ") " ++ op.sql ++ " (" ++ parameters values ++ ")"
  | .jsonContains column document => t.jsonContains column document
  | .jsonHasKey column => do return Sql.ofText (← t.jsonHasKey column)
  | .jsonLength column op value => do
    t.check op
    return t.jsonLength column ++ " " ++ op.sql ++ " " ++ value.sql
  | .fullText columns terms options => t.fullText columns terms options

def Subquery.sql (t : Target) : Subquery → Except Error Sql
  | .query q => q.sql t
  | .raw sql values => .ok (.raw sql values)

def unionSqls (t : Target) : List Union → Except Error (List Sql)
  | [] => .ok []
  | ⟨q, all⟩ :: rest => do
    let rows ← q.sql t
    let later ← unionSqls t rest
    let member : Sql := (if all then "UNION ALL " else "UNION ") ++ t.unionMember rows
    return member :: later

end

def Clause.sql (t : Target) (clause : Clause) : Except Error Sql := do
  return joinConditions (← predicateSqls t clause)

namespace Query

def parts (t : Target) (q : Query) : Parts where
  columns := selectionSqls t q.columns
  source := sourceSql t q.source
  joins := joinSqls t q.joins
  wheres := Clause.sql t q.wheres
  havings := Clause.sql t q.havings
  unions := unionSqls t q.unions

theorem sql_eq_assemble (t : Target) (q : Query) : q.sql t = t.assemble q (q.parts t) := by
  cases q
  rfl

/-- The components of the statement as if the query were neither a union nor limited by groups. -/
def components (t : Target) (q : Query) : Except Error Components := t.components q (q.parts t)

def finish (t : Target) (q : Query) (text : String) : Except Error Statement :=
  t.dialect.finish text (q.bindings t.numbersRows)

def selectStatement (t : Target) (q : Query) : Except Error Statement := do
  q.finish t (← q.sql t).text

def hasRowsText (t : Target) (rows : Sql) : Sql :=
  match t.dialect with
  | .sqlServer =>
    "SELECT CAST(CASE WHEN EXISTS(" ++ rows ++ ") THEN 1 ELSE 0 END AS BIT) AS " ++ t.dialect.quoteName "exists"
  | _ => "SELECT EXISTS(" ++ rows ++ ") AS " ++ t.dialect.quoteName "exists"

def hasRowsStatement (t : Target) (q : Query) : Except Error Statement := do
  q.finish t (hasRowsText t (← q.sql t)).text

def literalText (t : Target) (q : Query) : Except Error String := do
  let s ← q.selectStatement t
  t.dialect.substitute s.sql s.bindings

end Query

end SqlCompiler
