import SqlCompiler.Catalog.Answer
import SqlCompiler.Catalog.Question
import SqlCompiler.Schema.Building
import SqlCompiler.Schema.Compile
import SqlCompiler.Session.Basic

namespace SqlCompiler

/-- Runs a blueprint: nothing is sent unless all of it compiles. -/
def Blueprint.run (t : Target) (b : Blueprint) : Session Unit := do
  let statements ← Session.of (b.statements t)
  Session.effects (statements.map fun sql => ⟨sql, []⟩)

namespace Target

def runText (sql : String) : Session Unit := Session.effects [⟨sql, []⟩]

def runCreateDatabase (t : Target) (name : String) : Session Unit := do runText (← Session.of (t.createDatabase name))

def runDropDatabaseIfExists (t : Target) (name : String) : Session Unit := do
  runText (← Session.of (t.dropDatabaseIfExists name))

/-- Runs a session while foreign keys are not checked. They are checked again whether or not the session fails; its
own error goes before one in doing so. -/
def withoutForeignKeys {α : Type} (t : Target) (x : Session α) : Session α := do
  runText t.disableForeignKeys
  let result ← x.attempt
  let enabled ← (runText t.enableForeignKeys).attempt
  let a ← Session.of result
  Session.of enabled
  return a

def ask {α : Type} (question : Except Error String) (read : Row → Except Error α) : Session (List α) := do
  let rows ← Session.rows ⟨← Session.of question, []⟩
  Session.of (readRows read rows)

def tables (t : Target) : Session (List TableInfo) := ask (t.tablesQuery none) TableInfo.ofRow

def views (t : Target) : Session (List ViewInfo) := ask (t.viewsQuery none) ViewInfo.ofRow

def columnsOf (t : Target) (table : String) : Session (List ColumnInfo) :=
  ask (t.columnsQuery none table) (ColumnInfo.ofRow t.dialect)

def indexesOf (t : Target) (table : String) : Session (List IndexInfo) :=
  ask (t.indexesQuery none table) (IndexInfo.ofRow t.dialect)

def foreignKeysOf (t : Target) (table : String) : Session (List ForeignKeyInfo) :=
  ask (t.foreignKeysQuery none table) (ForeignKeyInfo.ofRow t.dialect)

def columnNames (t : Target) (table : String) : Session (List String) := do
  return (← t.columnsOf table).map (·.name)

def hasTable (t : Target) (table : String) : Session Bool := do
  return (← t.tables).any fun info => Text.sameButCase info.name (t.prefixed table)

def hasColumns (t : Target) (table : String) (columns : List String) : Session Bool := do
  let names ← t.columnNames table
  return columns.all fun column => names.any (Text.sameButCase · column)

def hasColumn (t : Target) (table column : String) : Session Bool := t.hasColumns table [column]

end Target

end SqlCompiler
