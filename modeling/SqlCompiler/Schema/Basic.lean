import SqlCompiler.Json.Basic
import SqlCompiler.Text.Case
import SqlCompiler.Text.Split

namespace SqlCompiler

inductive IndexKind
  | primary
  | unique
  | plain
  | fullText
  | spatial
deriving DecidableEq

namespace IndexKind

def all : List IndexKind := [.primary, .unique, .plain, .fullText, .spatial]

def name : IndexKind → String
  | .primary => "primary"
  | .unique => "unique"
  | .plain => "index"
  | .fullText => "fulltext"
  | .spatial => "spatial"

def suffix : IndexKind → String
  | .spatial => "spatialindex"
  | kind => kind.name

end IndexKind

inductive ReferenceAction
  | noAction
  | restrict
  | cascade
  | setNull
  | setDefault
deriving DecidableEq

namespace ReferenceAction

def all : List ReferenceAction := [.noAction, .restrict, .cascade, .setNull, .setDefault]

def name : ReferenceAction → String
  | .noAction => "no_action"
  | .restrict => "restrict"
  | .cascade => "cascade"
  | .setNull => "set_null"
  | .setDefault => "set_default"

def sql : ReferenceAction → String
  | .noAction => "NO ACTION"
  | .restrict => "RESTRICT"
  | .cascade => "CASCADE"
  | .setNull => "SET NULL"
  | .setDefault => "SET DEFAULT"

end ReferenceAction

structure TableIndex where
  name : String := ""
  columns : List String := []
  algorithm : Option String := none
  language : Option String := none
deriving DecidableEq

structure ForeignKey where
  name : String := ""
  columns : List String := []
  table : String := ""
  references : List String := []
  onDelete : Option ReferenceAction := none
  onUpdate : Option ReferenceAction := none
  deferrable : Option Bool := none
  initiallyImmediate : Option Bool := none
  notValid : Bool := false
deriving DecidableEq

inductive ColumnType
  | char (length : Option UInt32)
  | string (length : Option UInt32)
  | tinyText
  | text
  | mediumText
  | longText
  | tinyInteger
  | smallInteger
  | mediumInteger
  | integer
  | bigInteger
  | float (precision : Option UInt32)
  | double
  | decimal (total places : UInt32)
  | boolean
  | enum (allowed : List String)
  | set (allowed : List String)
  | json
  | jsonb
  | date
  | dateTime (precision : Option UInt32)
  | dateTimeTz (precision : Option UInt32)
  | time (precision : Option UInt32)
  | timeTz (precision : Option UInt32)
  | timestamp (precision : Option UInt32)
  | timestampTz (precision : Option UInt32)
  | year
  | binary (length : Option UInt32) (fixed : Bool)
  | uuid
  | ipAddress
  | macAddress
  | geometry (subtype : Option String) (srid : Option UInt32)
  | geography (subtype : Option String) (srid : Option UInt32)
  | vector (dimensions : UInt32)
  | computed (expression : String)
deriving DecidableEq

namespace ColumnType

def isSerial : ColumnType → Bool
  | .tinyInteger | .smallInteger | .mediumInteger | .integer | .bigInteger => true
  | _ => false

def isComputed : ColumnType → Bool
  | .computed _ => true
  | _ => false

def temporalPrecision? : ColumnType → Option (Option UInt32)
  | .dateTime precision | .dateTimeTz precision | .time precision | .timeTz precision | .timestamp precision
  | .timestampTz precision => some precision
  | _ => none

end ColumnType

inductive DefaultValue
  | null
  | bool (b : Bool)
  | integer (n : Int64)
  | float (x : Float)
  | text (s : String)
  | expression (sql : String)

structure ColumnIndex where
  kind : IndexKind
  name : Option String := none
deriving DecidableEq

structure Column where
  name : String := ""
  type : ColumnType := .text
  nullable : Option Bool := none
  defaultValue : Option DefaultValue := none
  unsigned : Bool := false
  autoIncrement : Bool := false
  charset : Option String := none
  collation : Option String := none
  comment : Option String := none
  virtualAs : Option String := none
  storedAs : Option String := none
  /-- The options of an identity column. -/
  identity : Option String := none
  always : Bool := false
  persisted : Bool := false
  useCurrent : Bool := false
  useCurrentOnUpdate : Bool := false
  onUpdate : Option String := none
  invisible : Bool := false
  after : Option String := none
  first : Bool := false
  /-- The column is there already and is to be changed. -/
  change : Bool := false
  startingValue : Option UInt64 := none
  indexes : List ColumnIndex := []
  foreign : Option ForeignKey := none

namespace Column

def isNullable (c : Column) : Bool := c.nullable.getD false

def isDerived (c : Column) : Bool := c.virtualAs.isSome || c.storedAs.isSome

def isGenerated (c : Column) : Bool := c.isDerived || c.identity.isSome

end Column

inductive Command
  | create
  | add
  | change
  | drop
  | dropIfExists
  | rename (new : String)
  | dropColumn (columns : List String)
  | renameColumn (old new : String)
  | index (kind : IndexKind) (index : TableIndex)
  | foreign (key : ForeignKey)
  | dropPrimary (name : String)
  | dropUnique (name : String)
  | dropIndex (name : String)
  | dropFullText (name : String)
  | dropSpatial (name : String)
  | dropForeign (name : String)
  | renameIndex (old new : String)
  | tableComment (comment : String)
  | columnComment (column comment : String)
  | startingValue (column : String) (value : UInt64)
deriving DecidableEq

namespace Command

def index? : Command → Option (IndexKind × TableIndex)
  | .index kind i => some (kind, i)
  | _ => none

def foreign? : Command → Option ForeignKey
  | .foreign key => some key
  | _ => none

def primary? : Command → Option TableIndex
  | .index .primary i => some i
  | _ => none

end Command

structure Blueprint where
  table : String := ""
  columns : List Column := []
  commands : List Command := []
  temporary : Bool := false
  charset : Option String := none
  collation : Option String := none
  engine : Option String := none

namespace Blueprint

def isCreating (b : Blueprint) : Bool := b.commands.contains .create

def addedColumns (b : Blueprint) : List Column := b.columns.filter fun c => !c.change

def changedColumns (b : Blueprint) : List Column := b.columns.filter fun c => c.change

def primaryKeys (b : Blueprint) : List TableIndex := b.commands.filterMap Command.primary?

def foreignKeys (b : Blueprint) : List ForeignKey := b.commands.filterMap Command.foreign?

def hasPrimaryOn (b : Blueprint) (column : String) : Bool :=
  b.primaryKeys.any fun index => index.columns.contains column

/-- The name of a table with the prefix where its schema ends. -/
def prefixedTable (b : Blueprint) (tablePrefix : String) : String :=
  match Text.splitLast '.' b.table.toList with
  | some (schema, table) => String.ofList schema ++ "." ++ tablePrefix ++ String.ofList table
  | none => tablePrefix ++ b.table

def indexName (b : Blueprint) (tablePrefix suffix : String) (columns : List String) : String :=
  let name := b.prefixedTable tablePrefix ++ "_" ++ "_".intercalate columns ++ "_" ++ suffix
  String.ofList ((Text.lower name).toList.map fun c => if c = '-' ∨ c = '.' then '_' else c)

end Blueprint

end SqlCompiler
