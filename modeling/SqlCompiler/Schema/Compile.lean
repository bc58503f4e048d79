import SqlCompiler.Schema.Constraint

namespace SqlCompiler

def Command.statements (t : Target) (b : Blueprint) : Command → Except Error (List String)
  | .create => t.createTable b
  | .add => t.addColumns b
  | .change => t.changeColumns b
  | .drop => .ok (t.dropTable b)
  | .dropIfExists => t.dropTableIfExists b
  | .rename new => t.renameTable b new
  | .dropColumn columns => t.dropColumns b columns
  | .renameColumn old new => t.renameColumn b old new
  | .index kind i => t.addIndex b kind i
  | .foreign key => t.addForeignKey b key
  | .dropPrimary name => t.dropPrimaryKey b name
  | .dropUnique name => .ok [t.dropUnique b name]
  | .dropIndex name => .ok [t.dropIndex b name]
  | .dropFullText name => t.dropFullTextIndex b name
  | .dropSpatial name => t.dropSpatialIndex b name
  | .dropForeign name => t.dropForeignKey b name
  | .renameIndex old new => t.renameIndex b old new
  | .tableComment comment => t.commentTable b comment
  | .columnComment column comment => t.commentColumn b column comment
  | .startingValue column value => t.startNumbering b column value

inductive FollowUp
  | comment
  | startingValue
deriving DecidableEq

namespace FollowUp

def name : FollowUp → String
  | .comment => "ColumnComment"
  | .startingValue => "AutoIncrementStartingValue"

def command? (c : Column) : FollowUp → Option Command
  | .comment => c.comment.map (.columnComment c.name)
  | .startingValue => if c.autoIncrement then c.startingValue.map (.startingValue c.name) else none

end FollowUp

/-- The follow-ups that a dialect writes; what is missing stands in the definition of the column. -/
def Dialect.followUps : Dialect → List FollowUp
  | .postgres => [.comment, .startingValue]
  | .mysql => [.startingValue]
  | .sqlite => []
  | .sqlServer => [.comment]

def Column.constraints (c : Column) : List Command :=
  (c.indexes.map fun i => .index i.kind { columns := [c.name], name := i.name.getD "" }) ++
    (c.foreign.map .foreign).toList

namespace Blueprint

def columnCommands (b : Blueprint) : List Command :=
  if b.isCreating then []
  else
    (if b.changedColumns.isEmpty then [] else [.change]) ++ (if b.addedColumns.isEmpty then [] else [.add])

def followUps (t : Target) (b : Blueprint) : List Command :=
  t.dialect.followUps.flatMap fun f => b.columns.filterMap fun c => f.command? c

/-- A command with a name for its index or key. -/
def named (t : Target) (b : Blueprint) : Command → Command
  | .index kind i =>
    if i.name = "" then .index kind { i with name := b.indexName t.tablePrefix kind.suffix i.columns }
    else .index kind i
  | .foreign key =>
    if key.name = "" then .foreign { key with name := b.indexName t.tablePrefix "foreign" key.columns }
    else .foreign key
  | other => other

/-- The blueprint with all its commands, each with its name. -/
def completed (t : Target) (b : Blueprint) : Blueprint :=
  { b with
    commands :=
      (b.columnCommands ++ b.commands ++ b.columns.flatMap Column.constraints ++ b.followUps t).map (b.named t) }

def commandStatements (t : Target) (b : Blueprint) : List Command → Except Error (List String)
  | [] => .ok []
  | command :: rest => do
    let first ← command.statements t b
    let later ← b.commandStatements t rest
    return first ++ later

def statements (t : Target) (b : Blueprint) : Except Error (List String) :=
  let completed := b.completed t
  completed.commandStatements t completed.commands

end Blueprint

end SqlCompiler
