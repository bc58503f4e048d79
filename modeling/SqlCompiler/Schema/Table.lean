import SqlCompiler.Schema.Definition

namespace SqlCompiler

namespace Target

/-- The table of a blueprint. Temporary tables of SQL Server are marked in their name. -/
def tableOf (t : Target) (b : Blueprint) : String :=
  match t.dialect, b.temporary with
  | .sqlServer, true => t.dialect.quoteName ("#" ++ t.tablePrefix ++ b.table)
  | _, _ => t.table b.table

def wideLiteral (t : Target) (s : String) : Except Error String := do return "N" ++ (← t.quote s)

def alter (t : Target) (b : Blueprint) (change : String) : String := "ALTER TABLE " ++ t.tableOf b ++ " " ++ change

def usingWords (i : TableIndex) : String := around " USING " (i.algorithm.map Text.upper) ""

def foreignKeyClause (t : Target) (k : ForeignKey) : String :=
  "FOREIGN KEY (" ++ t.columns k.columns ++ ") REFERENCES " ++ t.table k.table ++ " (" ++ t.columns k.references ++
    ")" ++ around " ON DELETE " (k.onDelete.map ReferenceAction.sql) "" ++
    around " ON UPDATE " (k.onUpdate.map ReferenceAction.sql) ""

def mysqlPrimaryKeys (t : Target) (b : Blueprint) : List String :=
  match b.primaryKeys with
  | [] => []
  | i :: _ => ["PRIMARY KEY" ++ usingWords i ++ " (" ++ t.columns i.columns ++ ")"]

def mysqlTableOptions (t : Target) (b : Blueprint) : Except Error String := do
  return around " DEFAULT CHARACTER SET " (b.charset <|> t.charset) "" ++
    (← t.quoted " COLLATE " (b.collation <|> t.collation)) ++ around " ENGINE = " (b.engine <|> t.engine) ""

def sqliteKeys (t : Target) (b : Blueprint) : String :=
  String.join (b.foreignKeys.map fun k => ", " ++ t.foreignKeyClause k) ++
    (match b.primaryKeys with
      | [] => ""
      | i :: _ => ", PRIMARY KEY (" ++ t.columns i.columns ++ ")")

def temporaryWord (b : Blueprint) : String := wordsIf b.temporary "TEMPORARY "

def createTable (t : Target) (b : Blueprint) : Except Error (List String) := do
  let definitions ← t.definitions b b.columns
  match t.dialect with
  | .postgres =>
    return ["CREATE " ++ temporaryWord b ++ "TABLE " ++ t.tableOf b ++ " (" ++ ", ".intercalate definitions ++ ")"]
  | .mysql =>
    return ["CREATE " ++ temporaryWord b ++ "TABLE " ++ t.tableOf b ++ " (" ++
      ", ".intercalate (definitions ++ t.mysqlPrimaryKeys b) ++ ")" ++ (← t.mysqlTableOptions b)]
  | .sqlite =>
    return ["CREATE " ++ temporaryWord b ++ "TABLE " ++ t.tableOf b ++ " (" ++ ", ".intercalate definitions ++
      t.sqliteKeys b ++ ")"]
  | .sqlServer => return ["CREATE TABLE " ++ t.tableOf b ++ " (" ++ ", ".intercalate definitions ++ ")"]

def sqliteAdditions (t : Target) (b : Blueprint) : List Column → Except Error (List String)
  | [] => .ok []
  | c :: rest =>
    if c.storedAs.isSome then
      t.unsupported .addingStoredColumns
    else do
      let first ← t.definition b c
      let later ← t.sqliteAdditions b rest
      return t.alter b ("ADD COLUMN " ++ first) :: later

def addColumns (t : Target) (b : Blueprint) : Except Error (List String) :=
  match t.dialect with
  | .postgres => do
    let definitions ← t.definitions b b.addedColumns
    return [t.alter b (", ".intercalate (definitions.map ("ADD COLUMN " ++ ·)))]
  | .mysql => do
    let definitions ← t.definitions b b.addedColumns
    return [t.alter b (", ".intercalate (definitions.map ("ADD " ++ ·)))]
  | .sqlite => t.sqliteAdditions b b.addedColumns
  | .sqlServer => do
    let definitions ← t.definitions b b.addedColumns
    return [t.alter b ("ADD " ++ ", ".intercalate definitions)]

def identityChanges (c : Column) : List String :=
  match identityWords? c with
  | some identity => ["DROP IDENTITY IF EXISTS", "ADD " ++ identity]
  | none => if c.autoIncrement then [] else ["DROP IDENTITY IF EXISTS"]

def postgresChanges (t : Target) (c : Column) : Except Error (List String) :=
  if c.isDerived then
    t.unsupported .changingGeneratedColumns
  else do
    let type ← t.typeName c
    let default_ ←
      match t.effectiveDefault c with
      | some value => do pure ("SET DEFAULT " ++ (← t.defaultLiteral value))
      | none => pure "DROP DEFAULT"
    return ["TYPE " ++ type ++ around " COLLATE " (c.collation.map t.column) "",
      if c.isNullable then "DROP NOT NULL" else "SET NOT NULL", default_] ++ identityChanges c

def postgresAlterations (t : Target) : List Column → Except Error (List String)
  | [] => .ok []
  | c :: rest => do
    let changes ← t.postgresChanges c
    let later ← t.postgresAlterations rest
    return changes.map (("ALTER COLUMN " ++ t.column c.name ++ " ") ++ ·) ++ later

def changeColumns (t : Target) (b : Blueprint) : Except Error (List String) :=
  match t.dialect with
  | .postgres => do return [t.alter b (", ".intercalate (← t.postgresAlterations b.changedColumns))]
  | .mysql => do
    let definitions ← t.definitions b b.changedColumns
    return [t.alter b (", ".intercalate (definitions.map ("MODIFY " ++ ·)))]
  | .sqlite | .sqlServer => t.unsupported .changingColumns

def dropTable (t : Target) (b : Blueprint) : List String := ["DROP TABLE " ++ t.tableOf b]

def dropTableIfExists (t : Target) (b : Blueprint) : Except Error (List String) :=
  match t.dialect with
  | .sqlServer => do
    return ["IF OBJECT_ID(" ++ (← t.wideLiteral (t.tableOf b)) ++ ", 'U') IS NOT NULL DROP TABLE " ++ t.tableOf b]
  | .postgres | .mysql | .sqlite => .ok ["DROP TABLE IF EXISTS " ++ t.tableOf b]

def renameTable (t : Target) (b : Blueprint) (new : String) : Except Error (List String) :=
  match t.dialect with
  | .mysql => .ok ["RENAME TABLE " ++ t.tableOf b ++ " TO " ++ t.table new]
  | .sqlServer => do return ["sp_rename " ++ (← t.wideLiteral (t.tableOf b)) ++ ", " ++ t.table new]
  | .postgres | .sqlite => .ok [t.alter b ("RENAME TO " ++ t.table new)]

/-- A batch of SQL Server that drops the constraints that give columns their default values. -/
def dropDefaults (t : Target) (b : Blueprint) (columns : List String) : Except Error String := do
  let names ← t.quotes columns
  let drop ← t.quote (t.alter b "DROP CONSTRAINT ")
  return "DECLARE @sql NVARCHAR(MAX) = '';SELECT @sql += " ++ drop ++
    " + OBJECT_NAME([default_object_id]) + ';' FROM sys.columns WHERE [object_id] = OBJECT_ID(" ++
    (← t.wideLiteral (t.tableOf b)) ++ ") AND [name] IN (" ++ ", ".intercalate names ++
    ") AND [default_object_id] <> 0;EXEC(@sql)"

def dropColumns (t : Target) (b : Blueprint) (columns : List String) : Except Error (List String) :=
  match t.dialect with
  | .postgres => .ok [t.alter b (", ".intercalate (columns.map fun c => "DROP COLUMN " ++ t.column c))]
  | .mysql => .ok [t.alter b (", ".intercalate (columns.map fun c => "DROP " ++ t.column c))]
  | .sqlite =>
    if t.olderThan 3 35 0 then t.unsupported .droppingColumns
    else .ok (columns.map fun c => t.alter b ("DROP COLUMN " ++ t.column c))
  | .sqlServer => do return [← t.dropDefaults b columns, t.alter b ("DROP COLUMN " ++ t.columns columns)]

def renamesColumns (t : Target) : Bool :=
  if t.isMariadb then !t.olderThan 10 5 2 else !t.olderThan 8 0 0

def renamePart (t : Target) (b : Blueprint) (old new kind : String) : Except Error (List String) := do
  return ["sp_rename " ++ (← t.wideLiteral (t.tableOf b ++ "." ++ t.column old)) ++ ", " ++ t.column new ++ ", N'" ++
    kind ++ "'"]

def renameColumn (t : Target) (b : Blueprint) (old new : String) : Except Error (List String) :=
  let changed := t.alter b ("RENAME COLUMN " ++ t.column old ++ " TO " ++ t.column new)
  match t.dialect with
  | .postgres => .ok [changed]
  | .mysql => if t.renamesColumns then .ok [changed] else t.unsupported .renamingColumnsInMysql
  | .sqlite => if t.olderThan 3 25 0 then t.unsupported .renamingColumnsInSqlite else .ok [changed]
  | .sqlServer => t.renamePart b old new "COLUMN"

def describe (t : Target) (b : Blueprint) (comment : String) (column : Option String) : Except Error String := do
  let value ← t.wideLiteral comment
  let schema ← t.wideLiteral (t.schema.getD "dbo")
  let table ← t.wideLiteral (t.tablePrefix ++ b.table)
  let columnWords ←
    match column with
    | none => pure ""
    | some name => do pure (", @level2type=N'COLUMN', @level2name=" ++ (← t.wideLiteral name))
  return "EXEC sys.sp_addextendedproperty @name=N'MS_Description', @value=" ++ value ++
    ", @level0type=N'SCHEMA', @level0name=" ++ schema ++ ", @level1type=N'TABLE', @level1name=" ++ table ++ columnWords

def commentTable (t : Target) (b : Blueprint) (comment : String) : Except Error (List String) :=
  match t.dialect with
  | .postgres => do return ["COMMENT ON TABLE " ++ t.tableOf b ++ " IS " ++ (← t.quote comment)]
  | .mysql => do return [t.alter b ("COMMENT = " ++ (← t.quote comment))]
  | .sqlServer => do return [← t.describe b comment none]
  | .sqlite => t.unsupported .tableComments

def commentColumn (t : Target) (b : Blueprint) (column comment : String) : Except Error (List String) :=
  match t.dialect with
  | .postgres => do
    return ["COMMENT ON COLUMN " ++ t.tableOf b ++ "." ++ t.column column ++ " IS " ++ (← t.quote comment)]
  | .sqlServer => do return [← t.describe b comment (some column)]
  | .mysql | .sqlite => t.unsupported .columnComments

def startNumbering (t : Target) (b : Blueprint) (column : String) (value : UInt64) : Except Error (List String) :=
  match t.dialect with
  | .postgres =>
    .ok ["ALTER SEQUENCE " ++ t.table (b.table ++ "_" ++ column ++ "_seq") ++ " RESTART WITH " ++
      toString value.toNat]
  | .mysql => .ok [t.alter b ("AUTO_INCREMENT = " ++ toString value.toNat)]
  | .sqlite | .sqlServer => t.unsupported .autoIncrementStart

end Target

end SqlCompiler
