import SqlCompiler.Select.Compile
import SqlCompiler.Write.Rows

namespace SqlCompiler

def Query.targetTable (q : Query) : Except Error String :=
  match q.source.bind Source.table? with
  | some name => .ok name
  | none => .error (.invalid .noTargetTable)

namespace Target

def rowOf (operands : List Operand) : Sql := "(" ++ parameters operands ++ ")"

def defaultRow (t : Target) : String :=
  match t.dialect with
  | .mysql => "() VALUES ()"
  | .postgres | .sqlite | .sqlServer => "DEFAULT VALUES"

def insertText (t : Target) (verb table : String) (values : Values) : Sql :=
  let head := verb ++ " INTO " ++ t.table table ++ " "
  if values.isEmpty then
    head ++ t.defaultRow
  else
    head ++ "(" ++ t.columns values.columns ++ ") VALUES " ++ Sql.join ", " (values.rows.map rowOf)

def assignment (t : Target) (column : String) (value : Sql) : Sql := t.column column ++ " = " ++ value

/-- A replacement, where a function names the value that was to be inserted. -/
def replacement (t : Target) (inserted : String → String) : Replacement → Sql
  | .inserted column => t.assignment column (inserted (t.column column))
  | .given column value => t.assignment column value.sql

def replacements (t : Target) (inserted : String → String) (list : List Replacement) : Sql :=
  .join ", " (list.map (t.replacement inserted))

end Target

namespace Query

def insertSql (t : Target) (q : Query) (verb : String) (values : Values) : Except Error Sql := do
  return t.insertText verb (← q.targetTable) values

def insert (t : Target) (q : Query) (values : Values) : Except Error Statement := do
  t.dialect.finish (← q.insertSql t "INSERT" values).text values.bindings

def insertOrIgnore (t : Target) (q : Query) (values : Values) : Except Error Statement := do
  match t.dialect with
  | .mysql => t.dialect.finish (← q.insertSql t "INSERT IGNORE" values).text values.bindings
  | .sqlite => t.dialect.finish (← q.insertSql t "INSERT OR IGNORE" values).text values.bindings
  | .postgres =>
    t.dialect.finish ((← q.insertSql t "INSERT" values) ++ " ON CONFLICT DO NOTHING" : Sql).text values.bindings
  | .sqlServer => t.unsupported .insertOrIgnore

/-- The statement that inserts a row and answers with the key that the server gave to it, where the dialect can
ask for the key in the same statement. -/
def insertReturningId (t : Target) (q : Query) (values : Values) (key : Option String) : Except Error Statement := do
  let rows ← q.insertSql t "INSERT" values
  let key := t.column (key.getD "id")
  match t.dialect with
  | .postgres => t.dialect.finish (rows ++ " RETURNING " ++ key : Sql).text values.bindings
  | .sqlServer =>
    t.dialect.finish ("SET NOCOUNT ON;" ++ rows ++ ";SELECT SCOPE_IDENTITY() AS " ++ key : Sql).text values.bindings
  | .mysql | .sqlite => t.dialect.finish rows.text values.bindings

def insertFrom (t : Target) (q : Query) (columns : List String) (source : Query) : Except Error Statement := do
  let table ← q.targetTable
  let rows ← source.sql t
  let into := "INSERT INTO " ++ t.table table ++ " "
  source.finish t
    (if columns.isEmpty then into ++ rows else into ++ "(" ++ t.columns columns ++ ") " ++ rows : Sql).text

def duplicateKeySql (t : Target) (q : Query) (u : Upsert) : Except Error Sql := do
  let rows ← q.insertSql t "INSERT" u.values
  let row := t.dialect.quoteName "upsert_row"
  if t.namesInsertedRow then
    return rows ++ " AS " ++ row ++ " ON DUPLICATE KEY UPDATE " ++
      t.replacements (fun column => row ++ "." ++ column) u.replacements
  else
    return rows ++ " ON DUPLICATE KEY UPDATE " ++
      t.replacements (fun column => "VALUES(" ++ column ++ ")") u.replacements

def conflictSql (t : Target) (q : Query) (u : Upsert) : Except Error Sql := do
  let rows ← q.insertSql t "INSERT" u.values
  let excluded := t.dialect.quoteName "excluded"
  return rows ++ " ON CONFLICT (" ++ t.columns u.uniqueBy ++ ") DO UPDATE SET " ++
    t.replacements (fun column => excluded ++ "." ++ column) u.replacements

def mergeSql (t : Target) (q : Query) (u : Upsert) : Except Error Sql := do
  if u.values.isEmpty then
    .error (.invalid .noRowsToMerge)
  else
    let table := t.table (← q.targetTable)
    let source := t.dialect.quoteName "upsert_source"
    let sourceColumn (column : String) : String := source ++ "." ++ column
    let columns := t.columns u.values.columns
    let matching := u.uniqueBy.map fun c => sourceColumn (t.column c) ++ " = " ++ table ++ "." ++ t.column c
    let inserted := u.values.columns.map fun c => sourceColumn (t.column c)
    return "MERGE " ++ table ++ " USING (VALUES " ++ Sql.join ", " (u.values.rows.map Target.rowOf) ++ ") " ++
      source ++ " (" ++ columns ++ ") ON " ++ " AND ".intercalate matching ++
      " WHEN MATCHED THEN UPDATE SET " ++ t.replacements sourceColumn u.replacements ++
      " WHEN NOT MATCHED THEN INSERT (" ++ columns ++ ") VALUES (" ++ ", ".intercalate inserted ++ ");"

/-- The statement that inserts rows and changes the ones that are there already; with nothing to change it only
inserts. -/
def upsert (t : Target) (q : Query) (u : Upsert) : Except Error Statement := do
  if u.replacements.isEmpty then
    q.insert t u.values
  else if t.dialect ≠ .mysql ∧ u.uniqueBy.isEmpty then
    .error (.invalid .noUniqueColumns)
  else
    let sql ←
      match t.dialect with
      | .mysql => q.duplicateKeySql t u
      | .postgres | .sqlite => q.conflictSql t u
      | .sqlServer => q.mergeSql t u
    t.dialect.finish sql.text u.bindings

end Query

end SqlCompiler
