import SqlCompiler.Write.Insert

namespace SqlCompiler

namespace Target

/-- The values that a document takes as documents and not as plain values. -/
def storesAsDocument (t : Target) : Value → Bool
  | .json _ | .array _ => true
  | .bool _ => t.dialect = .postgres ∨ t.dialect = .mysql
  | _ => t.dialect = .postgres

def stored (t : Target) (v : Value) : Value := if t.storesAsDocument v then .json v.toJson else v

def storedSql (t : Target) : Operand → Sql
  | .raw sql => .raw sql []
  | .value v =>
    let value := Sql.param (t.stored v)
    if t.storesAsDocument v then
      match t.dialect with
      | .postgres => value
      | .mysql => "JSON_EXTRACT(" ++ value ++ ", '$')"
      | .sqlite => "JSON(" ++ value ++ ")"
      | .sqlServer => "JSON_QUERY(" ++ value ++ ")"
    else
      value

def documentAssignment (t : Target) (column : String) (value : Operand) : Sql :=
  let (name, path) := Text.fieldAndPath column
  let field := t.dotted name
  let changed (function document path : String) : Sql :=
    field ++ " = " ++ function ++ "(" ++ document ++ ", " ++ path ++ ", " ++ t.storedSql value ++ ")"
  match t.dialect with
  | .postgres =>
    changed "JSONB_SET" (field ++ "::jsonb") (quoteText ("\x7b" ++ ",".intercalate path ++ "\x7d"))
  | .mysql | .sqlite => changed "JSON_SET" field (jsonPath path)
  | .sqlServer => changed "JSON_MODIFY" field (jsonPath path)

def recordAssignment (t : Target) (column : String) (value : Operand) : Sql :=
  if Text.hasArrow column then t.documentAssignment column value else t.assignment column value.sql

def recordAssignments (t : Target) (r : Record) : Sql :=
  .join ", " (r.entries.map fun (column, value) => t.recordAssignment column value)

def assigned (t : Target) (column : String) : Operand → List Value
  | .raw _ => []
  | .value v => [if Text.hasArrow column then t.stored v else v]

def assignedValues (t : Target) (r : Record) : List Value :=
  r.entries.flatMap fun (column, value) => t.assigned column value

end Target

namespace Query

/-- The statement says which rows it means by its conditions alone. -/
def isPlainTarget (q : Query) : Bool := q.joins.isEmpty && q.limit.isNone

def wheresSql (t : Target) (q : Query) : Except Error Sql :=
  Target.clauseAfter "WHERE" q.wheres (Clause.sql t q.wheres)

def joinsSql (t : Target) (q : Query) : Except Error Sql := do return .join " " (← joinSqls t q.joins)

def keyTest (t : Target) (q : Query) (table key : String) : Except Error Sql := do
  let picked := { q with columns := [.column (aliasOf table ++ "." ++ key)], aggregate := none }
  return t.dialect.quoteName key ++ " IN (" ++ (← picked.sql t) ++ ")"

def writeOrder (t : Target) (q : Query) : Sql :=
  .concat [t.orderBy q.orders, (q.limit.map Target.limitWord).getD ""]

def topWord (q : Query) : String :=
  match q.limit with
  | none => ""
  | some n => "TOP (" ++ toString n.toNat ++ ") "

/-- The parts whose values a statement that writes does not bind. -/
def unboundParts (t : Target) (q : Query) : List Bucket :=
  match t.dialect with
  | .postgres | .sqlite => if q.isPlainTarget then [.select, .order] else [.select]
  | .mysql => if q.joins.isEmpty then [.select] else [.select, .order]
  | .sqlServer => [.select, .order]

def plainUpdate (t : Target) (q : Query) (assignments : Sql) : Except Error Sql := do
  let table := t.table (← q.targetTable)
  return .concat ["UPDATE " ++ table ++ " SET " ++ assignments, ← q.wheresSql t]

def keyedUpdate (t : Target) (q : Query) (assignments : Sql) (key : String) : Except Error Sql := do
  let table ← q.targetTable
  return "UPDATE " ++ t.table table ++ " SET " ++ assignments ++ " WHERE " ++ (← q.keyTest t table key)

def mysqlUpdate (t : Target) (q : Query) (assignments : Sql) : Except Error Sql := do
  let table := t.table (← q.targetTable)
  if q.joins.isEmpty then
    return .concat ["UPDATE " ++ table ++ " SET " ++ assignments, ← q.wheresSql t, q.writeOrder t]
  else
    let joins ← q.joinsSql t
    return .concat [("UPDATE " ++ table : Sql), joins, "SET " ++ assignments, ← q.wheresSql t]

def sqlServerUpdate (t : Target) (q : Query) (assignments : Sql) : Except Error Sql := do
  let table ← q.targetTable
  if q.joins.isEmpty then
    return .concat ["UPDATE " ++ q.topWord ++ t.table table ++ " SET " ++ assignments, ← q.wheresSql t]
  else
    let joins ← q.joinsSql t
    return .concat ["UPDATE " ++ q.topWord ++ t.table (aliasOf table) ++ " SET " ++ assignments ++ " FROM " ++
      t.table table, joins, ← q.wheresSql t]

def updateSql (t : Target) (q : Query) (assignments : Sql) : Except Error Sql :=
  match t.dialect with
  | .postgres => if q.isPlainTarget then q.plainUpdate t assignments else q.keyedUpdate t assignments "ctid"
  | .sqlite => if q.isPlainTarget then q.plainUpdate t assignments else q.keyedUpdate t assignments "rowid"
  | .mysql => q.mysqlUpdate t assignments
  | .sqlServer => q.sqlServerUpdate t assignments

/-- The values of an update in the order of its parts; MySQL writes joins before the assignments. -/
def updateBindings (t : Target) (q : Query) (r : Record) : List Value :=
  let held := q.buckets t.numbersRows
  match t.dialect with
  | .mysql =>
    held.held .join ++ t.assignedValues r ++ held.flattenExcept (q.unboundParts t ++ [.join])
  | .postgres | .sqlite | .sqlServer => t.assignedValues r ++ held.flattenExcept (q.unboundParts t)

def update (t : Target) (q : Query) (r : Record) : Except Error Statement := do
  if r.isEmpty then
    .error (.invalid .noAssignments)
  else
    t.dialect.finish (← q.updateSql t (t.recordAssignments r)).text (q.updateBindings t r)

def plainDelete (t : Target) (q : Query) : Except Error Sql := do
  let table := t.table (← q.targetTable)
  return .concat [("DELETE FROM " ++ table : Sql), ← q.wheresSql t]

def keyedDelete (t : Target) (q : Query) (key : String) : Except Error Sql := do
  let table ← q.targetTable
  return "DELETE FROM " ++ t.table table ++ " WHERE " ++ (← q.keyTest t table key)

def mysqlDelete (t : Target) (q : Query) : Except Error Sql := do
  let table ← q.targetTable
  if q.joins.isEmpty then
    return .concat [("DELETE FROM " ++ t.table table : Sql), ← q.wheresSql t, q.writeOrder t]
  else
    let joins ← q.joinsSql t
    return .concat [("DELETE " ++ t.table (aliasOf table) ++ " FROM " ++ t.table table : Sql), joins,
      ← q.wheresSql t]

def sqlServerDelete (t : Target) (q : Query) : Except Error Sql := do
  let table ← q.targetTable
  if q.joins.isEmpty then
    return .concat [("DELETE " ++ q.topWord ++ "FROM " ++ t.table table : Sql), ← q.wheresSql t]
  else
    let joins ← q.joinsSql t
    return .concat [("DELETE " ++ q.topWord ++ t.table (aliasOf table) ++ " FROM " ++ t.table table : Sql), joins,
      ← q.wheresSql t]

def deleteSql (t : Target) (q : Query) : Except Error Sql :=
  match t.dialect with
  | .postgres => if q.isPlainTarget then q.plainDelete t else q.keyedDelete t "ctid"
  | .sqlite => if q.isPlainTarget then q.plainDelete t else q.keyedDelete t "rowid"
  | .mysql => q.mysqlDelete t
  | .sqlServer => q.sqlServerDelete t

def delete (t : Target) (q : Query) : Except Error Statement := do
  t.dialect.finish (← q.deleteSql t).text ((q.buckets t.numbersRows).flattenExcept (q.unboundParts t))

/-- The statements that empty a table and start its numbering again. -/
def truncate (t : Target) (q : Query) : Except Error (List Statement) := do
  let table ← q.targetTable
  match t.dialect with
  | .postgres => return [← t.dialect.finish ("TRUNCATE " ++ t.table table ++ " RESTART IDENTITY CASCADE") []]
  | .mysql | .sqlServer => return [← t.dialect.finish ("TRUNCATE TABLE " ++ t.table table) []]
  | .sqlite =>
    let numbering := "DELETE FROM " ++ t.dialect.quoteName "sqlite_sequence" ++ " WHERE " ++
      t.dialect.quoteName "name" ++ " = ?"
    let reset ← t.dialect.finish numbering [.text (t.tablePrefix ++ table)]
    return [reset, ← t.dialect.finish ("DELETE FROM " ++ t.table table) []]

end Query

end SqlCompiler
